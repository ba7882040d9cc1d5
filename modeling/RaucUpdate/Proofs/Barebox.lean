import RaucUpdate.Model.Barebox
import Mathlib.Logic.Relation

namespace RaucUpdate

open Library

section Variables

lemma priorityVar_inj {b b' : String} (h : priorityVar b = priorityVar b') : b = b' := by
  have hlist := congrArg String.toList h
  simp only [priorityVar, String.toList_append] at hlist
  have hb := List.append_cancel_left (List.append_cancel_right hlist)
  exact String.toList_inj.mp hb

lemma attemptsVar_inj {b b' : String} (h : attemptsVar b = attemptsVar b') : b = b' := by
  have hlist := congrArg String.toList h
  simp only [attemptsVar, String.toList_append] at hlist
  have hb := List.append_cancel_left (List.append_cancel_right hlist)
  exact String.toList_inj.mp hb

lemma priorityVar_ne_attemptsVar (b b' : String) : priorityVar b ≠ attemptsVar b' := by
  intro h
  have hlast := congrArg (fun s : String => s.toList.getLast?) h
  simp only [priorityVar, attemptsVar, String.toList_append] at hlast
  rw [List.getLast?_append_of_ne_nil _ (by decide), List.getLast?_append_of_ne_nil _ (by decide)]
    at hlast
  exact absurd hlast (by decide)

end Variables

section StateGet

lemma newline_not_mem_formatNat (n : Nat) : '\n' ∉ (formatNat 10 n).toList := by
  intro h
  have hblank := not_blank_of_mem_formatNat 10 (by decide) (by decide) n _ h
  exact absurd hblank (by decide)

lemma splitFields_two_lines (x y : String) (hx : '\n' ∉ x.toList) (hy : '\n' ∉ y.toList) :
    splitFields '\n' (x ++ "\n" ++ y ++ "\n") = [x, y, ""] := by
  have hlist : (x ++ "\n" ++ y ++ "\n").toList = x.toList ++ '\n' :: (y.toList ++ '\n' :: []) := by
    simp [String.toList_append]
  unfold splitFields splitChars
  rw [hlist, if_neg (by simp), List.splitOn_append_cons_self_of_not_mem hx,
    List.splitOn_append_cons_self_of_not_mem hy]
  simp

lemma parseOutline_formatNat (v : UInt32) : parseOutline (some (formatNat 10 v.toNat)) =
    .ok v.toNat := by
  have hv : v.toNat < 2 ^ 64 := lt_trans v.toNat_lt (by decide)
  have hread := strtoull_formatNat 10 (by decide) (by decide) _ hv
  simp [parseOutline, hread]

/-- The two printed lines are read back as the two stored numbers. -/
lemma parseOutput_lines (p a : UInt32) :
    parseOutput (formatNat 10 p.toNat ++ "\n" ++ formatNat 10 a.toNat ++ "\n") = .ok ⟨p, a⟩ := by
  unfold parseOutput
  rw [splitFields_two_lines _ _ (newline_not_mem_formatNat _) (newline_not_mem_formatNat _)]
  simp only [List.getElem?_cons_zero, List.getElem?_cons_succ, parseOutline_formatNat]
  simp [Bind.bind, Except.bind, Pure.pure, Except.pure]

lemma bareboxStateGet_triple (st : BareboxState) (b : String) :
    Prog.Triple (· = st) (bareboxStateGet b)
      (fun r s => s = st ∧ st (priorityVar b) = some r.prio ∧ st (attemptsVar b) = some r.attempts)
      (fun _ s => s = st) := by
  refine Prog.triple_bind (Prog.triple_ask (Q := fun _ s => s = st) (fun _ _ h => h)
    (fun _ h => h)) ?_
  intro r
  cases r with
  | some failure => exact Prog.triple_exit (fun _ h => h)
  | none =>
    refine Prog.triple_bind (Prog.triple_read (Q := fun r s => r = st ∧
      s = st) (fun _ h => ⟨h, h⟩)) ?_
    intro st'
    cases hp : st' (priorityVar b) with
    | none =>
      simp only [bareboxStateOutput, hp]
      exact Prog.triple_exit (fun _ h => h.2)
    | some p =>
      cases ha : st' (attemptsVar b) with
      | none =>
        simp only [bareboxStateOutput, hp, ha]
        exact Prog.triple_exit (fun _ h => h.2)
      | some a =>
        simp only [bareboxStateOutput, hp, ha, parseOutput_lines]
        refine Prog.triple_pure ?_
        rintro s ⟨rfl, rfl⟩
        exact ⟨rfl, hp, ha⟩

lemma bareboxStateGet_calm (st : BareboxState) (b : String) (p a : UInt32)
    (hp : st (priorityVar b) = some p) (ha : st (attemptsVar b) = some a) :
    bareboxStateGet b (Prog.calm st) = (.value ⟨p, a⟩, Prog.calm st) := by
  have hout : bareboxStateOutput st b =
      some (formatNat 10 p.toNat ++ "\n" ++ formatNat 10 a.toNat ++ "\n") := by
    simp [bareboxStateOutput, hp, ha]
  simp only [bareboxStateGet, Bind.bind, Prog.bind, Prog.ask, Prog.calm, Prog.read, hout,
    parseOutput_lines]
  rfl

lemma bareboxStateGet_calm_missing (st : BareboxState) (b : String)
    (h : bareboxStateOutput st b = none) :
    bareboxStateGet b (Prog.calm st) =
      (.exit (.error (commandError bareboxStateName (.exitStatus 1))), Prog.calm st) := by
  simp only [bareboxStateGet, Bind.bind, Prog.bind, Prog.ask, Prog.calm, Prog.read, h]
  rfl

end StateGet

section Assignments

lemma bareboxAssign_other (st st' : BareboxState) (pairs : List (String × Int)) (x : String)
    (h : bareboxAssign st pairs = some st') (hx : x ∉ pairs.map Prod.fst) : st' x = st x := by
  induction pairs generalizing st with
  | nil =>
    simp only [bareboxAssign, Option.some.injEq] at h
    rw [h]
  | cons e rest ih =>
    obtain ⟨var, v⟩ := e
    simp only [List.map_cons, List.mem_cons, not_or] at hx
    simp only [bareboxAssign] at h
    split_ifs at h with hok
    have hrest := ih _ h hx.2
    simpa [hx.1] using hrest

lemma bareboxAssign_mem (st st' : BareboxState) (pairs : List (String × Int)) (x : String) (v : Int)
    (h : bareboxAssign st pairs = some st') (hnodup : (pairs.map Prod.fst).Nodup)
    (hx : (x, v) ∈ pairs) :
    st' x = some (UInt32.ofNat v.toNat) ∧ (st x).isSome ∧ 0 ≤ v ∧ v < 2 ^ 32 := by
  induction pairs generalizing st with
  | nil => exact absurd hx List.not_mem_nil
  | cons e rest ih =>
    obtain ⟨var, u⟩ := e
    simp only [List.map_cons, List.nodup_cons] at hnodup
    simp only [bareboxAssign] at h
    split_ifs at h with hok
    rcases List.mem_cons.mp hx with hx | hx
    · obtain ⟨rfl, rfl⟩ := Prod.mk.inj hx
      have hlast := bareboxAssign_other _ _ _ x h hnodup.1
      exact ⟨by simpa using hlast, hok⟩
    · have hne : x ≠ var := fun hvar => hnodup.1 (List.mem_map.mpr ⟨(x, v), hx, hvar⟩)
      have hrest := ih _ h hnodup.2 hx
      simpa [hne] using hrest

lemma bareboxStateSet_triple (st : BareboxState) (pairs : List (String × Int)) (hne : pairs ≠ []) :
    Prog.Triple (· = st) (bareboxStateSet pairs) (fun _ s => bareboxAssign st pairs = some s)
      (fun _ s => s = st) := by
  unfold bareboxStateSet
  rw [if_neg (by simpa using hne)]
  refine Prog.triple_bind (Prog.triple_ask (Q := fun _ s => s = st) (fun _ _ h => h)
    (fun _ h => h)) ?_
  intro r
  cases r with
  | some failure => exact Prog.triple_exit (fun _ h => h)
  | none =>
    refine Prog.triple_bind (Prog.triple_read (Q := fun r s => r = st ∧
      s = st) (fun _ h => ⟨h, h⟩)) ?_
    intro st'
    cases ha : bareboxAssign st' pairs with
    | none => exact Prog.triple_exit (fun _ h => h.2)
    | some st'' =>
      refine Prog.triple_modify ?_
      rintro s ⟨rfl, -⟩
      exact ha

end Assignments

section SetPrimary

/-- The stored priority of a bootname, zero when there is none. -/
def storedPrio (st : BareboxState) (b : String) : UInt32 := (st (priorityVar b)).getD 0

def priorityPairs (st : BareboxState) (slot : RaucSlot) (order : List RaucSlot) :
    List (String × Int) :=
  order.filterMap (fun s => s.bootname.map
    (fun b => (priorityVar b, primaryPriority slot s (storedPrio st b))))

/-- Both variables of a bootname are stored. -/
def HasVars (st : BareboxState) (b : String) : Prop :=
  (st (priorityVar b)).isSome ∧ (st (attemptsVar b)).isSome

lemma bareboxPriorityPairs_triple (st : BareboxState) (slot : RaucSlot) (order : List RaucSlot) :
    Prog.Triple (· = st) (bareboxPriorityPairs slot order)
      (fun pairs s => s = st ∧ pairs = priorityPairs st slot order ∧
        ∀ t ∈ order, ∀ b, t.bootname = some b → HasVars st b)
      (fun _ s => s = st) := by
  induction order with
  | nil => exact Prog.triple_pure (fun s h => ⟨h, rfl, by simp⟩)
  | cons t rest ih =>
    cases hb : t.bootname with
    | none =>
      simp only [bareboxPriorityPairs, hb]
      refine Prog.triple_consequence ih (fun _ h => h) ?_ (fun _ _ h => h)
      rintro pairs s ⟨hs, hpairs, hvars⟩
      refine ⟨hs, by simp [priorityPairs, hb, hpairs], ?_⟩
      intro u hu b hub
      rcases List.mem_cons.mp hu with rfl | hu
      · rw [hb] at hub
        exact absurd hub (by simp)
      · exact hvars u hu b hub
    | some b =>
      simp only [bareboxPriorityPairs, hb]
      refine Prog.triple_bind (bareboxStateGet_triple st b) ?_
      intro state
      refine Prog.triple_fact (fun hvars => ?_)
      refine Prog.triple_bind ih (fun pairs => Prog.triple_pure ?_)
      rintro s ⟨hs, hpairs, hrest⟩
      refine ⟨hs, by simp [priorityPairs, hb, hpairs, storedPrio, hvars.1], ?_⟩
      intro u hu b' hub
      rcases List.mem_cons.mp hu with rfl | hu
      · rw [hb] at hub
        obtain rfl := Option.some.inj hub
        exact ⟨by simp [hvars.1], by simp [hvars.2]⟩
      · exact hrest u hu b' hub

/-- The names assigned by `r_barebox_set_primary` are distinct. -/
lemma priorityPairs_nodup (config : RaucConfig) (st : BareboxState) (slot : RaucSlot)
    (order : List RaucSlot)
    (horder : order.Perm config.slots.values) :
      ((priorityPairs st slot order).map Prod.fst).Nodup := by
  have hnodup : order.Nodup := horder.nodup_iff.mpr config.values_nodup
  have hmem : ∀ s ∈ order, s ∈ config.slots.values := fun s hs => horder.mem_iff.mp hs
  unfold priorityPairs
  clear horder
  induction order with
  | nil => simp
  | cons s rest ih =>
    have hrest := ih (List.nodup_cons.mp hnodup).2 (fun t ht => hmem t (by simp [ht]))
    cases hb : s.bootname with
    | none => simpa [hb] using hrest
    | some b =>
      rw [List.filterMap_cons_some (by rw [hb]; rfl), List.map_cons, List.nodup_cons]
      refine ⟨?_, hrest⟩
      intro hin
      obtain ⟨e, he, hfst⟩ := List.mem_map.mp hin
      obtain ⟨t, ht, hte⟩ := List.mem_filterMap.mp he
      obtain ⟨b', hb', rfl⟩ := Option.map_eq_some_iff.mp hte
      have hbb : b' = b := priorityVar_inj hfst
      have hst : s = t := config.bootname_unique s (hmem s (by simp)) t (hmem t (by simp [ht])) b hb
        (by rw [hb', hbb])
      exact (List.nodup_cons.mp hnodup).1 (hst ▸ ht)

/-- What a successful `r_barebox_set_primary` leaves behind: the primary slot has priority 20 and
attempts left, every other bootable slot has priority 10, or 0 where it had 0. -/
structure PrimarySet (config : RaucConfig) (slot : RaucSlot) (st st' : BareboxState) : Prop where
  vars : ∀ t ∈ config.slots.values, ∀ b, t.bootname = some b → HasVars st b
  prio : ∀ t ∈ config.slots.values, ∀ b, t.bootname = some b →
    st' (priorityVar b) = some (UInt32.ofNat (primaryPriority slot t (storedPrio st b)).toNat)
  attempts : ∃ n : UInt32, n ≠ 0 ∧ st' (attemptsVar (bootnameText slot)) = some n
  other : ∀ b, b ≠ bootnameText slot → st' (attemptsVar b) = st (attemptsVar b)

lemma uint32_ofNat_ne_zero {v : Int} (hpos : 0 < v) (hlt : v < 2 ^ 32) :
    UInt32.ofNat v.toNat ≠ 0 := by
  intro h
  have hnat := congrArg UInt32.toNat h
  rw [UInt32.toNat_ofNat_of_lt' (by simp [UInt32.size]; omega)] at hnat
  simp at hnat
  omega

lemma rBareboxSetPrimary_triple (config : RaucConfig) (st : BareboxState) (order : List RaucSlot)
    (slot : RaucSlot) (horder : order.Perm config.slots.values) :
    Prog.Triple (· = st) (rBareboxSetPrimary config order slot)
      (fun _ st' => PrimarySet config slot st st') (fun _ s => s = st) := by
  refine Prog.triple_bind (bareboxPriorityPairs_triple st slot order) ?_
  intro pairs
  refine Prog.triple_fact ?_
  rintro ⟨rfl, hvars⟩
  refine Prog.triple_consequence (bareboxStateSet_triple st _ (by simp)) (fun _ h => h) ?_
    (fun _ _ h => h)
  intro _ st' hassign
  have hfresh : attemptsVar (bootnameText slot) ∉ (priorityPairs st slot order).map Prod.fst := by
    intro hin
    obtain ⟨e, he, hfst⟩ := List.mem_map.mp hin
    obtain ⟨t, -, hte⟩ := List.mem_filterMap.mp he
    obtain ⟨b, -, rfl⟩ := Option.map_eq_some_iff.mp hte
    exact priorityVar_ne_attemptsVar _ _ hfst
  have hnodup : ((priorityPairs st slot order ++
      [(attemptsVar (bootnameText slot), attemptsOr config.bootAttemptsPrimary 3)]).map
        Prod.fst).Nodup := by
    rw [List.map_append]
    refine List.Nodup.append (priorityPairs_nodup config st slot order horder)
      (List.nodup_singleton _) ?_
    simpa using hfresh
  refine ⟨?_, ?_, ?_, ?_⟩
  · intro t ht
    exact hvars t (horder.mem_iff.mpr ht)
  · intro t ht b hb
    refine (bareboxAssign_mem st st' _ _ _ hassign hnodup (List.mem_append_left _ ?_)).1
    exact List.mem_filterMap.mpr ⟨t, horder.mem_iff.mpr ht, by rw [hb]; rfl⟩
  · obtain ⟨hval, -, -, hlt⟩ := bareboxAssign_mem st st' _ (attemptsVar (bootnameText slot))
      (attemptsOr config.bootAttemptsPrimary 3) hassign hnodup (by simp)
    exact ⟨_, uint32_ofNat_ne_zero (attemptsOr_pos _) hlt, hval⟩
  · intro b hb
    refine bareboxAssign_other st st' _ _ hassign ?_
    rw [List.map_append, List.mem_append, not_or]
    refine ⟨?_, by simpa using fun h => hb (attemptsVar_inj h)⟩
    intro hin
    obtain ⟨e, he, hfst⟩ := List.mem_map.mp hin
    obtain ⟨t, -, hte⟩ := List.mem_filterMap.mp he
    obtain ⟨b', -, rfl⟩ := Option.map_eq_some_iff.mp hte
    exact priorityVar_ne_attemptsVar _ _ hfst

end SetPrimary

section Observers

/-- What `r_barebox_get_state` reports, read off the stored variables. -/
def bareboxVerdict (st : BareboxState) (b : String) : Outcome GError Bool :=
  match st (priorityVar b), st (attemptsVar b) with
  | some p, some a => .value (decide (0 < p ∧ 0 < a))
  | _, _ => .exit (.error (commandError bareboxStateName (.exitStatus 1)))

lemma observe_rBareboxGetState (st : BareboxState) (t : RaucSlot) :
    Prog.observe (rBareboxGetState t) st = bareboxVerdict st (bootnameText t) := by
  unfold Prog.observe rBareboxGetState bareboxVerdict
  cases hp : st (priorityVar (bootnameText t)) with
  | none =>
    have hout : bareboxStateOutput st (bootnameText t) = none := by simp [bareboxStateOutput, hp]
    simp only [Bind.bind, Prog.bind, bareboxStateGet_calm_missing st _ hout]
  | some p =>
    cases ha : st (attemptsVar (bootnameText t)) with
    | none =>
      have hout : bareboxStateOutput st (bootnameText t) = none := by
        simp [bareboxStateOutput, hp, ha]
      simp only [Bind.bind, Prog.bind, bareboxStateGet_calm_missing st _ hout]
    | some a =>
      simp only [Bind.bind, Prog.bind, bareboxStateGet_calm st _ p a hp ha]
      rfl

/-- The loop of `r_barebox_get_primary` ends with the slot whose priority beats all others,
wherever the hash order puts it. -/
lemma bareboxPrimaryLoop_calm (st : BareboxState) (slot : RaucSlot) (b : String) (a : UInt32)
    (hb : slot.bootname = some b) (hp : st (priorityVar b) = some 20)
    (ha : st (attemptsVar b) = some a)
    (ha0 : a ≠ 0) (order : List RaucSlot)
    (hothers : ∀ t ∈ order, t ≠ slot → ∀ c, t.bootname = some c →
      ∃ p n, st (priorityVar c) = some p ∧ st (attemptsVar c) = some n ∧ p ≤ 10)
    (primary : Option RaucSlot) (top : UInt32)
    (h : (top ≤ 10 ∧ slot ∈ order) ∨ (primary = some slot ∧ top = 20)) :
    bareboxPrimaryLoop primary top order (Prog.calm st) = (.value (some slot), Prog.calm st) := by
  induction order generalizing primary top with
  | nil =>
    rcases h with ⟨-, hmem⟩ | ⟨rfl, -⟩
    · exact absurd hmem List.not_mem_nil
    · rfl
  | cons t rest ih =>
    have ihrest := ih (fun u hu => hothers u (by simp [hu]))
    by_cases ht : t = slot
    · subst ht
      simp only [bareboxPrimaryLoop, hb, Bind.bind, Prog.bind,
        bareboxStateGet_calm st b 20 a hp ha, ha0, if_false]
      rcases h with ⟨htop, -⟩ | ⟨rfl, rfl⟩
      · have hlt : top < 20 := UInt32.lt_of_le_of_lt htop (by decide)
        rw [if_pos hlt]
        exact ihrest (some t) 20 (Or.inr ⟨rfl, rfl⟩)
      · rw [if_neg (by decide)]
        exact ihrest (some t) 20 (Or.inr ⟨rfl, rfl⟩)
    · have hmem : slot ∈ t :: rest → slot ∈ rest := fun hm => by
        rcases List.mem_cons.mp hm with rfl | hm
        · exact absurd rfl ht
        · exact hm
      have hkeep : (top ≤ 10 ∧ slot ∈ rest) ∨ (primary = some slot ∧ top = 20) :=
        h.imp (fun h => ⟨h.1, hmem h.2⟩) id
      cases hc : t.bootname with
      | none =>
        simp only [bareboxPrimaryLoop, hc]
        exact ihrest primary top hkeep
      | some c =>
        obtain ⟨p, n, hpc, hnc, hple⟩ := hothers t (by simp) ht c hc
        simp only [bareboxPrimaryLoop, hc, Bind.bind, Prog.bind,
          bareboxStateGet_calm st c p n hpc hnc]
        split_ifs with hn hlt
        · exact ihrest primary top hkeep
        · rcases hkeep with ⟨-, hin⟩ | ⟨-, rfl⟩
          · exact ihrest (some t) p (Or.inl ⟨hple, hin⟩)
          · exact absurd (UInt32.lt_of_lt_of_le hlt hple) (by decide)
        · exact ihrest primary top hkeep

/-- A slot without attempts is never the result of `r_barebox_get_primary`. -/
lemma bareboxPrimaryLoop_skips (st : BareboxState) (slot : RaucSlot) (b : String)
    (hb : slot.bootname = some b) (ha : st (attemptsVar b) = some 0) (order : List RaucSlot)
    (primary : Option RaucSlot) (top : UInt32) (hprimary : primary ≠ some slot) :
    Prog.Triple (· = st) (bareboxPrimaryLoop primary top order) (fun r _ => r ≠ some slot)
      (fun _ _ => True) := by
  induction order generalizing primary top with
  | nil => exact Prog.triple_pure (fun _ _ => hprimary)
  | cons t rest ih =>
    cases hc : t.bootname with
    | none =>
      simp only [bareboxPrimaryLoop, hc]
      exact ih primary top hprimary
    | some c =>
      simp only [bareboxPrimaryLoop, hc]
      refine Prog.triple_bind (Prog.triple_consequence (bareboxStateGet_triple st c) (fun _ h => h)
        (fun _ _ h => h) (fun _ _ _ => trivial)) ?_
      intro state
      refine Prog.triple_fact (fun hvars => ?_)
      split_ifs with hn hlt
      · exact ih primary top hprimary
      · refine ih (some t) state.prio ?_
        intro hts
        obtain rfl := Option.some.inj hts
        obtain rfl : b = c := Option.some.inj (hb.symm.trans hc)
        exact hn (Option.some.inj (hvars.2.symm.trans ha))
      · exact ih primary top hprimary

end Observers

section Contract

/-- What the backend promises right after a successful call. -/
def BareboxPromise (config : RaucConfig) (st st' : BareboxState) : BareboxCall → Prop
  | .setPrimary slot =>
    (∀ order : List RaucSlot, order.Perm config.slots.values →
      Prog.observe (rBareboxGetPrimary order) st' = .value slot) ∧
    Prog.observe (rBareboxGetState slot) st' = .value true ∧
    ∀ t ∈ config.slots.values, t.bootname ≠ none → t ≠ slot →
      Prog.observe (rBareboxGetState t) st' = Prog.observe (rBareboxGetState t) st
  | .setState slot good =>
    (good = false →
      Prog.observe (rBareboxGetState slot) st' = .value false ∧
      ∀ (order : List RaucSlot) (fates : Nat → Fate), (rBareboxGetPrimary order ⟨st', fates⟩).1 ≠
        .value slot) ∧
    ∀ t ∈ config.slots.values, t.bootname ≠ none → t ≠ slot →
      Prog.observe (rBareboxGetState t) st' = Prog.observe (rBareboxGetState t) st

variable (config : RaucConfig)

lemma primarySet_promise (st st' : BareboxState) (slot : RaucSlot)
    (hslot : slot ∈ config.slots.values)
    (hboot : slot.bootname ≠ none) (h : PrimarySet config slot st st') :
    BareboxPromise config st st' (.setPrimary slot) := by
  obtain ⟨b, hb⟩ := Option.ne_none_iff_exists'.mp hboot
  obtain ⟨n, hn0, hn⟩ := h.attempts
  rw [bootnameText_eq hb] at hn
  have hprio : st' (priorityVar b) = some 20 := by
    rw [h.prio slot hslot b hb]
    simp [primaryPriority]
  have hother : ∀ t ∈ config.slots.values, t ≠ slot → ∀ c, t.bootname = some c → ∃ n,
      st' (priorityVar c) = some (if storedPrio st c = 0 then 0 else 10) ∧
      st (attemptsVar c) = some n ∧ st' (attemptsVar c) = some n := by
    intro t ht hne c hc
    have hname : t.name ≠ slot.name := fun hname => hne (config.eq_of_name_eq ht hslot hname)
    have hcb : c ≠ bootnameText slot := by
      have htext := bootnameText_ne config hslot ht hboot (by simp [hc]) hne
      rwa [bootnameText_eq hc] at htext
    obtain ⟨m, hm⟩ := Option.isSome_iff_exists.mp (h.vars t ht c hc).2
    refine ⟨m, ?_, hm, by rw [h.other c hcb, hm]⟩
    rw [h.prio t ht c hc]
    unfold primaryPriority
    rw [if_neg hname]
    split_ifs <;> rfl
  refine ⟨?_, ?_, ?_⟩
  · intro order horder
    have hloop := bareboxPrimaryLoop_calm st' slot b n hb hprio hn hn0 order (by
      intro t ht hne c hc
      obtain ⟨m, hp, -, hm⟩ := hother t (horder.mem_iff.mp ht) hne c hc
      refine ⟨_, m, hp, hm, ?_⟩
      split_ifs <;> decide) none 0 (Or.inl ⟨by decide, horder.mem_iff.mpr hslot⟩)
    unfold Prog.observe rBareboxGetPrimary
    simp only [Bind.bind, Prog.bind, hloop]
    rfl
  · have hpos : 0 < n := UInt32.pos_iff_ne_zero.mpr hn0
    rw [observe_rBareboxGetState, bootnameText_eq hb]
    simp only [bareboxVerdict, hprio, hn]
    simp [hpos]
  · intro t ht htb hne
    obtain ⟨c, hc⟩ := Option.ne_none_iff_exists'.mp htb
    obtain ⟨m, hp', hm, hm'⟩ := hother t ht hne c hc
    obtain ⟨p, hp⟩ := Option.isSome_iff_exists.mp (h.vars t ht c hc).1
    rw [observe_rBareboxGetState, observe_rBareboxGetState, bootnameText_eq hc]
    simp only [bareboxVerdict, hp', hm', hp, hm, storedPrio, Option.getD_some]
    by_cases hp0 : p = 0
    · simp [hp0]
    · have hpos : 0 < p := UInt32.pos_iff_ne_zero.mpr hp0
      simp [hp0, hpos]

lemma stateSet_promise (st st' : BareboxState) (slot : RaucSlot) (good : Bool)
    (hslot : slot ∈ config.slots.values) (hboot : slot.bootname ≠ none) (v : Int)
    (h : bareboxAssign st (if good then [(attemptsVar (bootnameText slot), v)] else
      [(priorityVar (bootnameText slot), 0), (attemptsVar (bootnameText slot), 0)]) = some st') :
    BareboxPromise config st st' (.setState slot good) := by
  obtain ⟨b, hb⟩ := Option.ne_none_iff_exists'.mp hboot
  refine ⟨?_, ?_⟩
  · rintro rfl
    simp only [Bool.false_eq_true, if_false, bootnameText_eq hb] at h
    have hnodup : ([(priorityVar b, (0 : Int)), (attemptsVar b, 0)].map Prod.fst).Nodup := by
      simp [priorityVar_ne_attemptsVar]
    have hp : st' (priorityVar b) = some 0 := (bareboxAssign_mem st st' _ _ 0 h hnodup (by simp)).1
    have ha : st' (attemptsVar b) = some 0 := (bareboxAssign_mem st st' _ _ 0 h hnodup (by simp)).1
    refine ⟨?_, ?_⟩
    · rw [observe_rBareboxGetState, bootnameText_eq hb]
      simp [bareboxVerdict, hp, ha]
    · intro order fates hvalue
      have hskip : Prog.Triple (· = st') (rBareboxGetPrimary order) (fun r _ => r ≠ slot)
          (fun _ _ => True) := by
        refine Prog.triple_bind (bareboxPrimaryLoop_skips st' slot b hb ha order none 0 (by simp))
          ?_
        intro r
        cases r with
        | none => exact Prog.triple_exit (fun _ _ => trivial)
        | some primary => exact Prog.triple_pure (fun _ hne hps => hne (by rw [hps]))
      exact hskip.value rfl hvalue rfl
  · intro t ht htb hne
    have htext := bootnameText_ne config hslot ht hboot htb hne
    have hp : st' (priorityVar (bootnameText t)) = st (priorityVar (bootnameText t)) := by
      refine bareboxAssign_other st st' _ _ h ?_
      cases good with
      | true => simpa using priorityVar_ne_attemptsVar _ _
      | false => simpa using ⟨fun h => htext (priorityVar_inj h), priorityVar_ne_attemptsVar _ _⟩
    have ha : st' (attemptsVar (bootnameText t)) = st (attemptsVar (bootnameText t)) := by
      refine bareboxAssign_other st st' _ _ h ?_
      cases good with
      | true => simpa using fun h => htext (attemptsVar_inj h)
      | false =>
        simpa using ⟨fun h => priorityVar_ne_attemptsVar _ _ h.symm, fun h =>
          htext (attemptsVar_inj h)⟩
    rw [observe_rBareboxGetState, observe_rBareboxGetState]
    simp only [bareboxVerdict, hp, ha]

/-- One call: it keeps its promise when it succeeds and changes nothing when it does not. -/
lemma bareboxCall_triple (st : BareboxState) (call : BareboxCall) (order : List RaucSlot)
    (hslot : call.slot ∈ config.slots.values) (hboot : call.slot.bootname ≠ none)
    (horder : order.Perm config.slots.values) :
    Prog.Triple (· = st) (call.run config order) (fun _ st' => BareboxPromise config st st' call)
      (fun _ s => s = st) := by
  cases call with
  | setPrimary slot =>
    refine Prog.triple_consequence (rBareboxSetPrimary_triple config st order slot horder)
      (fun _ h => h) ?_
      (fun _ _ h => h)
    intro _ st' h
    exact primarySet_promise config st st' slot hslot hboot h
  | setState slot good =>
    cases good with
    | true =>
      refine Prog.triple_consequence (bareboxStateSet_triple st _ (List.cons_ne_nil _ _))
        (fun _ h => h) ?_
        (fun _ _ h => h)
      intro _ st' h
      exact stateSet_promise config st st' slot true hslot hboot _ h
    | false =>
      refine Prog.triple_consequence (bareboxStateSet_triple st _ (List.cons_ne_nil _ _))
        (fun _ h => h) ?_
        (fun _ _ h => h)
      intro _ st' h
      exact stateSet_promise config st st' slot false hslot hboot 0 h

/-- Every call promises that the other slots keep their state. -/
lemma BareboxPromise.frame {st st' : BareboxState} {call : BareboxCall}
    (h : BareboxPromise config st st' call) : ∀ t ∈ config.slots.values, t.bootname ≠ none →
      t ≠ call.slot →
      Prog.observe (rBareboxGetState t) st' = Prog.observe (rBareboxGetState t) st := by
  cases call with
  | setPrimary slot => exact h.2.2
  | setState slot good => exact h.2

lemma bareboxRun_frame {st₀ st : BareboxState} {calls : List BareboxCall}
    (hrun : BareboxRun config st₀ calls st) (t : RaucSlot) (ht : t ∈ config.slots.values)
    (htb : t.bootname ≠ none) (hcalls : ∀ call ∈ calls, t ≠ call.slot) :
    Prog.observe (rBareboxGetState t) st = Prog.observe (rBareboxGetState t) st₀ := by
  induction hrun with
  | nil => rfl
  | snoc hrun call order fates hslot hbootname horder hsuccess ih =>
    have hbefore := ih (fun c hc => hcalls c (by simp [hc]))
    have hpost := (bareboxCall_triple config _ call order hslot hbootname horder).value rfl hsuccess
    rw [BareboxPromise.frame config hpost t ht htb (hcalls call (by simp)), hbefore]

/-- After any sequence of successful calls, the next call either succeeds and keeps its promise
or fails and leaves the barebox state as it was; and a slot that no call of the sequence named
still has the state it had at the beginning. -/
theorem bareboxRun_contract (st₀ st : BareboxState) (calls : List BareboxCall)
    (hrun : BareboxRun config st₀ calls st) :
    (∀ (call : BareboxCall) (order : List RaucSlot) (fates : Nat → Fate),
      call.slot ∈ config.slots.values → call.slot.bootname ≠ none → order.Perm config.slots.values →
      ((call.run config order ⟨st, fates⟩).1 = .value () →
        BareboxPromise config st (call.run config order ⟨st, fates⟩).2.state call) ∧
      ((call.run config order ⟨st, fates⟩).1 ≠ .value () →
        (call.run config order ⟨st, fates⟩).2.state = st)) ∧
    (∀ t ∈ config.slots.values, t.bootname ≠ none → (∀ call ∈ calls, t ≠ call.slot) →
      Prog.observe (rBareboxGetState t) st = Prog.observe (rBareboxGetState t) st₀) := by
  refine ⟨?_, fun t ht htb hcalls => bareboxRun_frame config hrun t ht htb hcalls⟩
  intro call order fates hslot hboot horder
  have hcall := bareboxCall_triple config st call order hslot hboot horder
  refine ⟨fun hvalue => hcall.value rfl hvalue, fun hvalue => ?_⟩
  cases hr : (call.run config order ⟨st, fates⟩).1 with
  | value u => exact absurd hr hvalue
  | exit x => exact hcall.exit rfl hr

end Contract

section Pair

def pairBareboxState : BareboxState := fun v =>
  if v = priorityVar "A" ∨ v = priorityVar "B" then some 10
  else if v = attemptsVar "A" ∨ v = attemptsVar "B" then some 3
  else none

/-- Marking `A` bad and then making `B` primary on the two-slot system. -/
theorem bareboxRun_contract_pair :
    ∃ st, BareboxRun pairConfig pairBareboxState [.setState (bootableSlot "rootfs.0" "A") false]
      st ∧
      BareboxPromise pairConfig st
        ((BareboxCall.setPrimary (bootableSlot "rootfs.1" "B")).run pairConfig
          pairConfig.slots.values
          ⟨st, fun _ => .succeeds⟩).2.state (.setPrimary (bootableSlot "rootfs.1" "B")) := by
  have hnil : BareboxRun pairConfig pairBareboxState [] pairBareboxState := .nil
  have hrun := hnil.snoc (.setState (bootableSlot "rootfs.0" "A") false) pairConfig.slots.values
    (fun _ => .succeeds)
    (by decide) (by decide) (List.Perm.refl _) (by decide)
  refine ⟨_, hrun, ?_⟩
  exact ((bareboxRun_contract pairConfig _ _ _ hrun).1 _ pairConfig.slots.values _
    (by decide) (by decide)
    (List.Perm.refl _)).1 (by decide)

end Pair

end RaucUpdate
