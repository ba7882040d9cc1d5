import RaucUpdate.Model.Efi

/-!
# The EFI backend

The order that a call writes is read back entry by entry, so its effect can be given as a function
of the variables. `BootNext` comes before the order, and a call that writes one of the two leaves
the other as it is.
-/

namespace RaucUpdate

open Library

section Reading

def efiEntries (vars : EfiVars) : List EfiBootentry :=
  vars.entries.entries.filterMap (fun e => matchEntry (.entry e.1.val e.2))

def efiOrder (vars : EfiVars) : List EfiBootentry :=
  (splitFields ',' vars.bootOrder).filterMap (getEfiEntryByBootnum (efiEntries vars))

def efiNext (vars : EfiVars) : Option EfiBootentry :=
  (vars.bootNext.map Subtype.val).bind (getEfiEntryByBootnum (efiEntries vars))

def efiCurrent (vars : EfiVars) : Option EfiBootentry :=
  (vars.bootCurrent.map Subtype.val).bind (getEfiEntryByBootnum (efiEntries vars))

/-- The listing has an entry and an order. -/
def EfiReadable (vars : EfiVars) : Prop :=
  efiEntries vars ≠ [] ∧ vars.bootOrder ≠ "" ∧
    vars.bootOrder.toList.all (fun c => !isNumberSpace c) = true

lemma filterMap_matchEntry (vars : EfiVars) : (efiListing vars).filterMap matchEntry =
    efiEntries vars := by
  unfold efiListing efiEntries
  rw [List.filterMap_append, List.filterMap_map]
  cases vars.bootNext <;> cases vars.bootCurrent <;> rfl

/-- The entry lines hold nothing but entries. -/
lemma findSome_listing {α : Type} (f : EfiLine → Option α)
    (h : ∀ num text, f (.entry num text) = none)
    (vars : EfiVars) :
    (efiListing vars).findSome? f = ((vars.bootNext.bind (fun num => f (.bootNext num.val))).or
      (vars.bootCurrent.bind (fun num => f (.bootCurrent num.val)))).or
        (f (.bootOrder vars.bootOrder)) := by
  have hentries : (vars.entries.entries.map (fun e => EfiLine.entry e.1.val e.2)).findSome? f =
      none := by
    simp [List.findSome?_map, List.findSome?_eq_none_iff, h]
  unfold efiListing
  rw [List.findSome?_append, hentries, Option.or_none, List.findSome?_append, List.findSome?_append,
    List.findSome?_singleton]
  cases vars.bootNext <;> cases vars.bootCurrent <;> simp

lemma findSome_matchBootOrder (vars : EfiVars) :
    (efiListing vars).findSome? matchBootOrder = matchBootOrder (.bootOrder vars.bootOrder) := by
  rw [findSome_listing matchBootOrder (fun _ _ => rfl)]
  cases vars.bootNext <;> cases vars.bootCurrent <;> rfl

lemma findSome_matchBootNext (vars : EfiVars) :
    (efiListing vars).findSome? matchBootNext = vars.bootNext.map Subtype.val := by
  rw [findSome_listing matchBootNext (fun _ _ => rfl)]
  cases vars.bootNext <;> cases vars.bootCurrent <;> rfl

lemma findSome_matchBootCurrent (vars : EfiVars) :
    (efiListing vars).findSome? matchBootCurrent = vars.bootCurrent.map Subtype.val := by
  rw [findSome_listing matchBootCurrent (fun _ _ => rfl)]
  cases vars.bootNext <;> cases vars.bootCurrent <;> rfl

/-- What `efi_bootorder_get` returns. -/
def efiSeen (vars : EfiVars) : EfiBootorder :=
  ⟨efiOrder vars, efiEntries vars, efiNext vars, efiCurrent vars⟩

@[simp] lemma efiSeen_bootorderEntries (vars : EfiVars) :
    (efiSeen vars).bootorderEntries = efiOrder vars := rfl

@[simp] lemma efiSeen_allEntries (vars : EfiVars) : (efiSeen vars).allEntries = efiEntries vars :=
  rfl

@[simp] lemma efiSeen_bootnext (vars : EfiVars) : (efiSeen vars).bootnext = efiNext vars := rfl

lemma parse_readable {vars : EfiVars} (h : EfiReadable vars) :
    parseEfiListing (efiListing vars) = .ok (efiSeen vars) := by
  unfold parseEfiListing
  rw [filterMap_matchEntry, findSome_matchBootOrder, findSome_matchBootNext,
    findSome_matchBootCurrent]
  simp only [matchBootOrder]
  rw [if_neg h.1, if_pos ⟨h.2.1, h.2.2⟩]
  rfl

lemma parse_unreadable {vars : EfiVars} (h : ¬EfiReadable vars) :
    ∃ e, parseEfiListing (efiListing vars) = .error e := by
  unfold parseEfiListing
  rw [filterMap_matchEntry, findSome_matchBootOrder]
  by_cases hentries : efiEntries vars = []
  · exact ⟨_, if_pos hentries⟩
  · have horder : ¬(vars.bootOrder ≠ "" ∧ vars.bootOrder.toList.all (fun c => !isNumberSpace c) =
        true) :=
      fun horder => h ⟨hentries, horder⟩
    simp only [matchBootOrder]
    rw [if_neg hentries, if_neg horder]
    exact ⟨_, rfl⟩

lemma efiBootorderGet_triple (vars : EfiVars) :
    Prog.Triple (· = vars) efiBootorderGet (fun r s => s = vars ∧ EfiReadable vars ∧
      r = efiSeen vars)
      (fun _ s => s = vars) := by
  apply Prog.triple_bind (Prog.triple_ask (Q := fun _ s => s = vars) (fun _ _ h => h)
    (fun _ h => h))
  intro result
  cases result with
  | some failure => exact Prog.triple_exit (fun _ h => h)
  | none =>
    apply Prog.triple_read_bind
    rintro s rfl
    by_cases hreadable : EfiReadable s
    · rw [parse_readable hreadable]
      exact Prog.triple_pure (fun _ h => ⟨h, hreadable, rfl⟩)
    · obtain ⟨e, he⟩ := parse_unreadable hreadable
      rw [he]
      exact Prog.triple_exit (fun _ h => h)

lemma efiBootorderGet_calm {vars : EfiVars} (h : EfiReadable vars) :
    Prog.Calmly vars efiBootorderGet (efiSeen vars) vars := by
  apply Prog.calmly_bind (Prog.calmly_ask vars)
  apply Prog.calmly_read_bind
  simp only [parse_readable h]
  exact Prog.calmly_pure vars _

lemma observe_rEfiGetState {vars : EfiVars} (h : EfiReadable vars) (slot : RaucSlot) :
    Prog.observe (rEfiGetState slot) vars = .value (efiSlotEntry slot (efiOrder vars)).isSome := by
  have hrun : Prog.Calmly vars (rEfiGetState slot) (efiSlotEntry slot (efiOrder vars)).isSome
      vars :=
    Prog.calmly_bind (efiBootorderGet_calm h) (Prog.calmly_pure vars _)
  unfold Prog.observe
  rw [hrun]

lemma observe_rEfiGetPrimary {vars : EfiVars} (h : EfiReadable vars) (order : List RaucSlot)
    {slot : RaucSlot}
    (hslot : ((efiNext vars).toList ++ efiOrder vars).findSome? (efiEntrySlot order) = some slot) :
    Prog.observe (rEfiGetPrimary order) vars = .value slot := by
  have hrun : Prog.Calmly vars (rEfiGetPrimary order) slot vars := by
    apply Prog.calmly_bind (efiBootorderGet_calm h)
    simp only [efiSeen_bootorderEntries, efiSeen_bootnext, hslot]
    exact Prog.calmly_pure vars slot
  unfold Prog.observe
  rw [hrun]

/-- The slot of the first entry that has one, whatever happens. -/
lemma rEfiGetPrimary_triple (vars : EfiVars) (order : List RaucSlot) :
    Prog.Triple (· = vars) (rEfiGetPrimary order)
      (fun r _ => ((efiNext vars).toList ++ efiOrder vars).findSome? (efiEntrySlot order) = some r)
        (fun _ _ => True) := by
  apply Prog.triple_bind (Prog.triple_consequence (efiBootorderGet_triple vars) (fun _ h => h)
    (fun _ _ h => h)
    (fun _ _ _ => trivial))
  intro r
  apply Prog.triple_fact
  rintro ⟨-, rfl⟩
  simp only [efiSeen_bootorderEntries, efiSeen_bootnext]
  cases hfound : ((efiNext vars).toList ++ efiOrder vars).findSome? (efiEntrySlot order) with
  | none => exact Prog.triple_exit (fun _ _ => trivial)
  | some primary => exact Prog.triple_pure (fun _ _ => rfl)

end Reading

section Writing

lemma bootnum_digit (num : Bootnum) {c : Char} (hc : c ∈ num.val.toList) : digitVal c ≠ none := by
  have hnum := num.2
  simp only [isBootnum, Bool.and_eq_true, List.all_eq_true] at hnum
  intro hd
  have hdigit := hnum.2 c hc
  simp [hd] at hdigit

lemma bootnum_ne_empty (num : Bootnum) : num.val ≠ "" := by
  intro h
  have hnum := num.2
  rw [h] at hnum
  exact absurd hnum (by decide)

lemma bootnum_no_comma (num : Bootnum) : ',' ∉ num.val.toList :=
  fun hc => absurd (bootnum_digit num hc) (by decide)

lemma bootnum_no_space (num : Bootnum) {c : Char} (hc : c ∈ num.val.toList) :
    isNumberSpace c = false := by
  have hdigit := bootnum_digit num hc
  cases hspace : isNumberSpace c with
  | false => rfl
  | true =>
    have hcases : c = ' ' ∨ c = '\t' ∨ c = '\n' ∨ c = '\x0c' ∨ c = '\r' ∨ c = '\x0b' := by
      simpa [isNumberSpace, isBlank, or_assoc] using hspace
    rcases hcases with rfl | rfl | rfl | rfl | rfl | rfl <;> exact absurd hdigit (by decide)

variable {vars : EfiVars}

lemma efiEntries_num {e : EfiBootentry} (he : e ∈ efiEntries vars) :
    ∃ num : Bootnum, num.val = e.num := by
  obtain ⟨⟨num, text⟩, -, hmatch⟩ := List.mem_filterMap.mp he
  simp only [matchEntry] at hmatch
  split_ifs at hmatch
  exact ⟨num, by rw [← Option.some.inj hmatch]⟩

lemma efiEntries_nodup (vars : EfiVars) : ((efiEntries vars).map EfiBootentry.num).Nodup := by
  have hkeys : (vars.entries.entries.map (fun e => e.1.val)).Nodup := by
    have hnodup := vars.entries.nodup.map Subtype.val_injective
    rwa [List.map_map] at hnodup
  have hsub : (efiEntries vars).map EfiBootentry.num =
      (vars.entries.entries.filter (fun e => decide (e.2 ≠ ""))).map (fun e => e.1.val) := by
    unfold efiEntries
    induction vars.entries.entries with
    | nil => rfl
    | cons e rest ih =>
      by_cases htext : e.2 = ""
      · simpa [matchEntry, List.filterMap_cons, htext] using ih
      · simpa [matchEntry, List.filterMap_cons, htext] using ih
  rw [hsub]
  exact hkeys.sublist (List.filter_sublist.map _)

/-- An entry is found by its number. -/
lemma byBootnum_of_mem {e : EfiBootentry} (he : e ∈ efiEntries vars) :
    getEfiEntryByBootnum (efiEntries vars) e.num = some e := by
  unfold getEfiEntryByBootnum
  cases hfound : (efiEntries vars).find? (fun e' => decide (e.num = e'.num)) with
  | none => exact absurd (List.find?_eq_none.mp hfound e he) (by simp)
  | some e' =>
    have hnum : e.num = e'.num := by simpa using List.find?_some hfound
    rw [List.inj_on_of_nodup_map (efiEntries_nodup vars) he (List.mem_of_find?_eq_some hfound) hnum]

lemma mem_efiEntries_of_byBootnum {num : String} {e : EfiBootentry}
    (h : getEfiEntryByBootnum (efiEntries vars) num = some e) : e ∈ efiEntries vars :=
  List.mem_of_find?_eq_some h

lemma mem_efiEntries_of_mem_efiOrder {e : EfiBootentry} (he : e ∈ efiOrder vars) :
    e ∈ efiEntries vars := by
  obtain ⟨num, -, hnum⟩ := List.mem_filterMap.mp he
  exact mem_efiEntries_of_byBootnum hnum

def EfiVars.withOrder (vars : EfiVars) (es : List EfiBootentry) : EfiVars :=
  { vars with bootOrder := joinFields ',' (es.map EfiBootentry.num) }

@[simp] lemma efiEntries_withOrder (vars : EfiVars) (es : List EfiBootentry) :
    efiEntries (vars.withOrder es) = efiEntries vars := rfl

@[simp] lemma efiNext_withOrder (vars : EfiVars) (es : List EfiBootentry) :
    efiNext (vars.withOrder es) = efiNext vars := rfl

lemma joinFields_nums_ne_empty {es : List EfiBootentry} (hes : ∀ e ∈ es, e ∈ efiEntries vars)
    (hne : es ≠ []) :
    joinFields ',' (es.map EfiBootentry.num) ≠ "" := by
  cases es with
  | nil => exact absurd rfl hne
  | cons e rest =>
    obtain ⟨num, hnum⟩ := efiEntries_num (hes e (by simp))
    have hchars : e.num.toList ≠ [] := by
      rw [← hnum]
      intro hnil
      exact bootnum_ne_empty num (String.toList_inj.mp hnil)
    intro hempty
    have hlist := congrArg String.toList hempty
    cases rest with
    | nil =>
      rw [List.map_singleton, joinFields_singleton] at hlist
      exact hchars (by simpa using hlist)
    | cons e' rest => simp [joinFields, joinChars_cons] at hlist

/-- A written order is read back. -/
lemma efiOrder_withOrder {es : List EfiBootentry} (hes : ∀ e ∈ es, e ∈ efiEntries vars) :
    efiOrder (vars.withOrder es) = es := by
  have hsplit : splitFields ',' (joinFields ',' (es.map EfiBootentry.num)) =
      es.map EfiBootentry.num := by
    by_cases hne : es = []
    · rw [hne]
      decide
    · apply splitFields_joinFields ',' _ _ (joinFields_nums_ne_empty hes hne)
      intro f hf
      obtain ⟨e, he, rfl⟩ := List.mem_map.mp hf
      obtain ⟨num, hnum⟩ := efiEntries_num (hes e he)
      rw [← hnum]
      exact bootnum_no_comma num
  unfold efiOrder
  rw [efiEntries_withOrder, EfiVars.withOrder, hsplit, List.filterMap_map]
  have hread : ∀ e ∈ es, (getEfiEntryByBootnum (efiEntries vars) ∘ EfiBootentry.num) e = some e :=
    fun e he => byBootnum_of_mem (hes e he)
  rw [List.filterMap_congr hread, List.filterMap_some]

lemma readable_withOrder (hreadable : EfiReadable vars) {es : List EfiBootentry}
    (hes : ∀ e ∈ es, e ∈ efiEntries vars) : EfiReadable (vars.withOrder es) ↔ es ≠ [] := by
  constructor
  · rintro ⟨-, hne, -⟩ rfl
    exact hne (by simp [EfiVars.withOrder, joinFields, joinChars])
  · intro hne
    refine ⟨hreadable.1, joinFields_nums_ne_empty hes hne, ?_⟩
    have hplain : ∀ c ∈ (joinFields ',' (es.map EfiBootentry.num)).toList,
        isNumberSpace c = false := by
      intro c hc
      rcases mem_joinFields hc with rfl | ⟨f, hf, hcf⟩
      · decide
      · obtain ⟨e, he, rfl⟩ := List.mem_map.mp hf
        obtain ⟨num, hnum⟩ := efiEntries_num (hes e he)
        rw [← hnum] at hcf
        exact bootnum_no_space num hcf
    simp only [EfiVars.withOrder, List.all_eq_true, Bool.not_eq_true']
    exact hplain

end Writing

section Preparing

variable (tool : EfiTool) {config : RaucConfig} {slot : RaucSlot} {b : String}

/-- The variables once the slot has an entry. -/
def efiPrepared (slot : RaucSlot) (vars : EfiVars) : EfiVars :=
  if (efiSlotEntry slot (efiEntries vars)).isSome then vars
  else
    match slot.bootname, tool.freshNum vars.entries with
    | some b, some num => { vars with entries := vars.entries.set num b }
    | _, _ => vars

lemma efiBootentryCreate_triple {vars : EfiVars} (hb : slot.bootname = some b)
    (hmissing : ¬(efiSlotEntry slot (efiEntries vars)).isSome = true) :
    Prog.Triple (· = vars) (efiBootentryCreate tool slot) (fun _ s => s =
      efiPrepared tool slot vars)
      (fun _ _ => True) := by
  have hstep : ∀ e : GError, Prog.Triple (· = vars) (Prog.external id (fun _ => e))
      (fun _ s => s = vars)
      (fun _ _ => True) :=
    fun e => Prog.triple_external (fun _ h => h) (fun _ _ _ => trivial) (fun _ _ => trivial)
  unfold efiBootentryCreate
  rw [hb]
  apply Prog.triple_bind (hstep _)
  intro _
  apply Prog.triple_bind (hstep _)
  intro _
  apply Prog.triple_bind (Prog.triple_ask (Q := fun _ s => s = vars) (fun _ _ h => h)
    (fun _ _ => trivial))
  intro result
  cases result with
  | some failure => exact Prog.triple_exit (fun _ _ => trivial)
  | none =>
    apply Prog.triple_read_bind
    rintro s rfl
    cases hfresh : tool.freshNum s.entries with
    | none => exact Prog.triple_exit (fun _ _ => trivial)
    | some num =>
      apply Prog.triple_modify
      rintro _ rfl
      unfold efiPrepared
      rw [if_neg hmissing, hb, hfresh]

lemma efiBootorderPrepare_triple (vars : EfiVars) (hb : slot.bootname = some b) :
    Prog.Triple (· = vars) (efiBootorderPrepare tool slot)
      (fun r s => s = efiPrepared tool slot vars ∧
        EfiReadable vars ∧ EfiReadable (efiPrepared tool slot vars) ∧
          r = efiSeen (efiPrepared tool slot vars))
      (fun _ _ => True) := by
  have hget : ∀ v, Prog.Triple (· = v) efiBootorderGet (fun r s => s = v ∧ EfiReadable v ∧
      r = efiSeen v)
      (fun _ _ => True) := fun v =>
    Prog.triple_consequence (efiBootorderGet_triple v) (fun _ h => h) (fun _ _ h => h)
      (fun _ _ _ => trivial)
  apply Prog.triple_bind (hget vars)
  intro r
  apply Prog.triple_fact
  rintro ⟨hreadable, rfl⟩
  rw [efiSeen_allEntries]
  by_cases hfound : (efiSlotEntry slot (efiEntries vars)).isSome = true
  · have hprepared : efiPrepared tool slot vars = vars := if_pos hfound
    rw [if_pos hfound, hprepared]
    exact Prog.triple_pure (fun _ h => ⟨h, hreadable, hreadable, rfl⟩)
  · rw [if_neg hfound]
    by_cases hloader : slot.efiLoader = none ∨ slot.efiCmdline = none
    · rw [if_pos hloader]
      exact Prog.triple_exit (fun _ _ => trivial)
    · rw [if_neg hloader]
      apply Prog.triple_bind (efiBootentryCreate_triple tool hb hfound)
      intro _
      apply Prog.triple_consequence (hget _) (fun _ h => h) _ (fun _ _ h => h)
      rintro r s ⟨hs, hprepared, hr⟩
      exact ⟨hs, hreadable, hprepared, hr⟩

/-- Preparing adds at most one entry, under a new number and with the bootname of the slot. -/
lemma efiPrepared_cases (vars : EfiVars) (hslot : slot ∈ config.slots.values)
    (hb : slot.bootname = some b) :
    efiPrepared tool slot vars = vars ∨
      ∃ num : Bootnum, efiEntries (efiPrepared tool slot vars) = efiEntries vars ++ [⟨num.val, b⟩] ∧
        (efiPrepared tool slot vars).bootOrder = vars.bootOrder ∧
        (efiPrepared tool slot vars).bootNext = vars.bootNext := by
  unfold efiPrepared
  split_ifs with hfound
  · exact .inl rfl
  · rw [hb]
    cases hfresh : tool.freshNum vars.entries with
    | none => exact .inl rfl
    | some num =>
      refine .inr ⟨num, ?_, rfl, rfl⟩
      have hname : entryName b = b := by
        apply String.toList_inj.mp
        rw [entryName, String.toList_ofList, List.takeWhile_eq_self_iff]
        intro c hc
        simp only [bne_iff_ne]
        rintro rfl
        exact (config.bootname_plain slot hslot b hb).2 hc
      have hne : b ≠ "" := by
        rintro rfl
        exact config.bootname_nonempty slot hslot hb
      unfold efiEntries
      rw [Table.entries_set_of_lookup_none _ _ _ (tool.unused _ _ hfresh), List.filterMap_append]
      simp [matchEntry, hne, hname]

/-- The entries of the other slots keep their places in the order. -/
lemma efiOrder_prepared_filter (vars : EfiVars) (hslot : slot ∈ config.slots.values)
    (hb : slot.bootname = some b) :
    (efiOrder (efiPrepared tool slot vars)).filter (fun e => decide (e.name ≠ b)) =
      (efiOrder vars).filter (fun e => decide (e.name ≠ b)) := by
  rcases efiPrepared_cases tool vars hslot hb with hsame | ⟨num, hentries, horder, -⟩
  · rw [hsame]
  · unfold efiOrder
    rw [List.filter_filterMap, List.filter_filterMap, horder]
    apply List.filterMap_congr
    intro n _
    rw [hentries]
    unfold getEfiEntryByBootnum
    rw [List.find?_append]
    cases (efiEntries vars).find? (fun e => decide (n = e.num)) with
    | some e => rfl
    | none =>
      by_cases hn : n = num.val
      · simp [hn]
      · simp [hn]

/-- What `BootNext` names: the same entry as before, or an entry that was just created. -/
lemma efiNext_prepared (vars : EfiVars) (hslot : slot ∈ config.slots.values)
    (hb : slot.bootname = some b) :
    efiNext (efiPrepared tool slot vars) = efiNext vars ∨
      efiNext vars = none ∧ ∃ e, efiNext (efiPrepared tool slot vars) = some e ∧ e.name = b := by
  rcases efiPrepared_cases tool vars hslot hb with hsame | ⟨num, hentries, -, hnext⟩
  · exact .inl (by rw [hsame])
  · unfold efiNext
    rw [hentries, hnext]
    cases vars.bootNext with
    | none => exact .inl rfl
    | some n =>
      simp only [Option.map_some, Option.bind_some, getEfiEntryByBootnum, List.find?_append]
      cases hfound : (efiEntries vars).find? (fun e => decide (n.val = e.num)) with
      | some e => exact .inl rfl
      | none =>
        by_cases hn : n.val = num.val
        · exact .inr ⟨rfl, ⟨num.val, b⟩, by simp [hn], rfl⟩
        · exact .inl (by simp [hn])

end Preparing

section Calls

variable (tool : EfiTool) {config : RaucConfig}

def EfiCall.prepends : EfiCall → Bool
  | .setState _ good => good
  | .setPrimary _ => true

/-- The order that a call writes: the first entry of the slot goes away or to the front. -/
def efiNewOrder (slot : RaucSlot) (prepend : Bool) (vars : EfiVars) : List EfiBootentry :=
  (if prepend then (efiSlotEntry slot (efiEntries vars)).toList else []) ++ (efiOrder vars).eraseP
    (namedLike slot)

/-- The variables after a successful call. -/
def efiAfter (config : RaucConfig) (vars : EfiVars) (call : EfiCall) : EfiVars :=
  let prepared := efiPrepared tool call.slot vars
  match call with
  | .setState slot good => prepared.withOrder (efiNewOrder slot good prepared)
  | .setPrimary slot =>
    if config.efiUseBootnext then
      prepared.setNext (((efiSlotEntry slot (efiEntries prepared)).map EfiBootentry.num).getD "")
    else prepared.withOrder (efiNewOrder slot true prepared)

lemma efiWriteBootorder_triple (vars : EfiVars) (es : List EfiBootentry) :
    Prog.Triple (· = vars) (efiWriteBootorder es) (fun _ s => s = vars.withOrder es)
      (fun _ _ => True) := by
  apply Prog.triple_bind (Prog.triple_attempt_cases (Prog.triple_external
    (Q := fun _ s => s = vars.withOrder es) (E := fun _ _ => True) _ (fun _ _ _ => trivial)
      (fun _ _ => trivial)))
  · intro result
    cases result with
    | error e => exact Prog.triple_exit (fun _ _ => trivial)
    | ok u => exact Prog.triple_pure (fun _ h => h)
  · rintro s rfl
    rfl

/-- The slot had, or got, an entry, and it is the first one. -/
def EfiPrepared (slot : RaucSlot) (vars : EfiVars) (entry : Bool) : Prop :=
  EfiReadable vars ∧ EfiReadable (efiPrepared tool slot vars) ∧
    (entry = true → (efiSlotEntry slot (efiEntries (efiPrepared tool slot vars))).isSome = true)

lemma efiModifyPersistentBootorder_triple {slot : RaucSlot} {b : String} (vars : EfiVars)
    (hb : slot.bootname = some b)
    (prepend : Bool) :
    Prog.Triple (· = vars) (efiModifyPersistentBootorder tool slot prepend)
      (fun _ s => s = (efiPrepared tool slot vars).withOrder
        (efiNewOrder slot prepend (efiPrepared tool slot vars)) ∧
        EfiPrepared tool slot vars prepend) (fun _ _ => True) := by
  apply Prog.triple_bind (efiBootorderPrepare_triple tool vars hb)
  intro r
  apply Prog.triple_fact
  rintro ⟨hreadable, hprepared, rfl⟩
  simp only [efiSeen_bootorderEntries, efiSeen_allEntries]
  cases prepend with
  | false =>
    rw [if_neg Bool.false_ne_true]
    apply Prog.triple_consequence (efiWriteBootorder_triple _ _) (fun _ h => h) _ (fun _ _ h => h)
    rintro _ s rfl
    exact ⟨by simp [efiNewOrder], hreadable, hprepared, by simp⟩
  | true =>
    rw [if_pos rfl]
    cases hentry : efiSlotEntry slot (efiEntries (efiPrepared tool slot vars)) with
    | none => exact Prog.triple_exit (fun _ _ => trivial)
    | some entry =>
      apply Prog.triple_consequence (efiWriteBootorder_triple _ _) (fun _ h => h) _ (fun _ _ h => h)
      rintro _ s rfl
      exact ⟨by simp [efiNewOrder, hentry], hreadable, hprepared, by simp [hentry]⟩

lemma efiSetTempPrimary_triple {slot : RaucSlot} {b : String} (vars : EfiVars)
    (hb : slot.bootname = some b) :
    Prog.Triple (· = vars) (efiSetTempPrimary tool slot)
      (fun _ s => s = (efiPrepared tool slot vars).setNext
          (((efiSlotEntry slot (efiEntries (efiPrepared tool slot vars))).map
            EfiBootentry.num).getD "") ∧
        EfiPrepared tool slot vars true) (fun _ _ => True) := by
  apply Prog.triple_bind (efiBootorderPrepare_triple tool vars hb)
  intro r
  apply Prog.triple_fact
  rintro ⟨hreadable, hprepared, rfl⟩
  simp only [efiSeen_allEntries]
  cases hentry : efiSlotEntry slot (efiEntries (efiPrepared tool slot vars)) with
  | none => exact Prog.triple_exit (fun _ _ => trivial)
  | some entry =>
    apply Prog.triple_mapError _ (fun _ _ _ => trivial)
    apply Prog.triple_external _ (fun _ _ _ => trivial) (fun _ _ => trivial)
    rintro s rfl
    exact ⟨rfl, hreadable, hprepared, by simp [hentry]⟩

/-- What a successful call does to the variables. -/
lemma efiCall_run (vars : EfiVars) (call : EfiCall) {b : String}
    (hb : call.slot.bootname = some b) :
    Prog.Triple (· = vars) (call.run tool config)
      (fun _ s => s = efiAfter tool config vars call ∧
        EfiPrepared tool call.slot vars call.prepends)
      (fun _ _ => True) := by
  cases call with
  | setState slot good => exact efiModifyPersistentBootorder_triple tool vars hb good
  | setPrimary slot =>
    simp only [EfiCall.run, rEfiSetPrimary, efiAfter, EfiCall.slot, EfiCall.prepends]
    cases config.efiUseBootnext with
    | true => exact efiSetTempPrimary_triple tool vars hb
    | false => exact efiModifyPersistentBootorder_triple tool vars hb true

end Calls

section Contract

variable (tool : EfiTool) {config : RaucConfig}

/-- What a call promises about its own slot. -/
def EfiPromise (config : RaucConfig) (vars : EfiVars) : EfiCall → Prop
  | .setPrimary slot => ∀ order : List RaucSlot, order.Perm config.slots.values →
      Prog.observe (rEfiGetPrimary order) vars = .value slot
  | .setState _ true => True
  | .setState slot false => Prog.observe (rEfiGetState slot) vars = .value false ∧
      ∀ order : List RaucSlot, order.Perm config.slots.values → ∀ fates : Nat → Fate,
        (rEfiGetPrimary order ⟨vars, fates⟩).1 ≠ .value slot

/-- What a call leaves alone: the order of the entries of the other slots, and so their states. -/
structure EfiFrame (config : RaucConfig) (slot : RaucSlot) (vars vars' : EfiVars) : Prop where
  order : (efiOrder vars').filter (fun e => !namedLike slot e) =
    (efiOrder vars).filter (fun e => !namedLike slot e)
  state : ∀ t ∈ config.slots.values, t.bootname ≠ none → t ≠ slot →
    Prog.observe (rEfiGetState t) vars' = Prog.observe (rEfiGetState t) vars

/-- The state before a call lets it keep its promise. An activation through the order needs a
`BootNext` that names no other slot. Marking a slot bad needs a `BootNext` that does not name the
slot, an order that lists the slot at most once, and another entry in the order. -/
def EfiGranted (config : RaucConfig) (vars : EfiVars) : EfiCall → Prop
  | .setPrimary slot => config.efiUseBootnext = true ∨
      ∀ e, efiNext vars = some e → ∀ t ∈ config.slots.values, namedLike t e = true → t = slot
  | .setState _ true => True
  | .setState slot false =>
      (∀ e, efiNext (efiPrepared tool slot vars) = some e → namedLike slot e = false) ∧
      ((efiOrder (efiPrepared tool slot vars)).filter (namedLike slot)).length ≤ 1 ∧
      ∃ e ∈ efiOrder (efiPrepared tool slot vars), namedLike slot e = false

lemma efiSlotEntry_isSome_iff (slot : RaucSlot) (es : List EfiBootentry) :
    (efiSlotEntry slot es).isSome = true ↔ ∃ e ∈ es, namedLike slot e = true := by
  simp [efiSlotEntry, List.find?_isSome]

/-- Whether a slot is listed depends on the entries that are not those of another slot. -/
lemma efiSlotEntry_filter {s t : RaucSlot} (hs : s ∈ config.slots.values)
    (ht : t ∈ config.slots.values)
    (hne : t ≠ s) (es : List EfiBootentry) :
    (efiSlotEntry t (es.filter (fun e => !namedLike s e))).isSome = (efiSlotEntry t es).isSome := by
  have hother : ∀ e : EfiBootentry, namedLike t e = true → namedLike s e = false := by
    intro e he
    simp only [namedLike, decide_eq_true_eq, decide_eq_false_iff_not] at he ⊢
    intro hse
    exact hne (config.bootname_unique t ht s hs e.name he.symm hse.symm)
  rw [Bool.eq_iff_iff, efiSlotEntry_isSome_iff, efiSlotEntry_isSome_iff]
  constructor
  · rintro ⟨e, he, hte⟩
    exact ⟨e, (List.mem_filter.mp he).1, hte⟩
  · rintro ⟨e, he, hte⟩
    exact ⟨e, List.mem_filter.mpr ⟨he, by simp [hother e hte]⟩, hte⟩

lemma efiEntrySlot_eq {order : List RaucSlot} (horder : order.Perm config.slots.values)
    {slot : RaucSlot}
    (hslot : slot ∈ config.slots.values) {e : EfiBootentry} (he : namedLike slot e = true) :
    efiEntrySlot order e = some slot := by
  unfold efiEntrySlot
  cases hfound : order.find? (fun t => namedLike t e) with
  | none =>
    exact absurd (List.find?_eq_none.mp hfound slot (horder.mem_iff.mpr hslot)) (by simp [he])
  | some t =>
    have ht := List.find?_some hfound
    have hmem := horder.mem_iff.mp (List.mem_of_find?_eq_some hfound)
    simp only [namedLike, decide_eq_true_eq] at ht he
    rw [config.bootname_unique t hmem slot hslot e.name ht.symm he.symm]

lemma namedLike_of_efiEntrySlot {order : List RaucSlot} {slot : RaucSlot} {e : EfiBootentry}
    (h : efiEntrySlot order e = some slot) : namedLike slot e = true := by
  unfold efiEntrySlot at h
  have hfound := List.find?_some h
  exact hfound

/-- Taking out the first match leaves the others in their order. -/
lemma filter_eraseP_not {α : Type} (p : α → Bool) (l : List α) :
    (l.eraseP p).filter (fun a => !p a) = l.filter (fun a => !p a) := by
  induction l with
  | nil => rfl
  | cons a rest ih =>
    cases hp : p a with
    | true => simp [hp]
    | false => simp [hp, ih]

/-- Taking out the first match leaves no other one if there was at most one. -/
lemma eraseP_none_iff {α : Type} (p : α → Bool) (l : List α) :
    (∀ a ∈ l.eraseP p, p a = false) ↔ (l.filter p).length ≤ 1 := by
  induction l with
  | nil => simp
  | cons a rest ih =>
    cases hp : p a with
    | true => simp [hp, List.filter_eq_nil_iff]
    | false => simp [hp, ih]

variable {vars : EfiVars} {slot : RaucSlot} {b : String}

lemma efiNewOrder_mem (prepend : Bool) {e : EfiBootentry} (he : e ∈ efiNewOrder slot prepend vars) :
    e ∈ efiEntries vars := by
  rcases List.mem_append.mp he with he | he
  · split_ifs at he
    · exact List.mem_of_find?_eq_some (Option.mem_toList.mp he)
    · exact absurd he List.not_mem_nil
  · exact mem_efiEntries_of_mem_efiOrder (List.mem_of_mem_eraseP he)

lemma efiNewOrder_filter (prepend : Bool) :
    (efiNewOrder slot prepend vars).filter (fun e => !namedLike slot e) =
      (efiOrder vars).filter (fun e => !namedLike slot e) := by
  have hentry : ∀ e ∈ (efiSlotEntry slot (efiEntries vars)).toList, namedLike slot e = true :=
    fun e he => List.find?_some (Option.mem_toList.mp he)
  unfold efiNewOrder
  rw [List.filter_append, filter_eraseP_not]
  split_ifs
  · rw [List.filter_eq_nil_iff.mpr (fun e he => by simp [hentry e he]), List.nil_append]
  · rfl

lemma prepared_order_filter (vars : EfiVars) (hslot : slot ∈ config.slots.values)
    (hb : slot.bootname = some b) :
    (efiOrder (efiPrepared tool slot vars)).filter (fun e => !namedLike slot e) =
      (efiOrder vars).filter (fun e => !namedLike slot e) := by
  have hnamed : ∀ e : EfiBootentry, (!namedLike slot e) = decide (e.name ≠ b) := by
    intro e
    simp [namedLike, hb]
  simp only [hnamed]
  exact efiOrder_prepared_filter tool vars hslot hb

/-- The order of the other slots is kept, and their states with it while the order can be read. -/
lemma efiFrame_of_order {vars' : EfiVars} (hslot : slot ∈ config.slots.values)
    (hreadable : EfiReadable vars)
    (hreadable' : EfiReadable vars')
    (horder : (efiOrder vars').filter (fun e => !namedLike slot e) =
      (efiOrder vars).filter (fun e => !namedLike slot e)) : EfiFrame config slot vars vars' := by
  refine ⟨horder, ?_⟩
  intro t ht htb hne
  rw [observe_rEfiGetState hreadable', observe_rEfiGetState hreadable,
    ← efiSlotEntry_filter hslot ht hne, horder,
    efiSlotEntry_filter hslot ht hne]

lemma readable_of_observe {good : Bool} (h : Prog.observe (rEfiGetState slot) vars = .value good) :
    EfiReadable vars := by
  have hrun : Prog.Triple (· = vars) (rEfiGetState slot) (fun _ _ => EfiReadable vars)
      (fun _ _ => True) := by
    apply Prog.triple_bind (Prog.triple_consequence (efiBootorderGet_triple vars) (fun _ h => h)
      (fun _ _ h => h)
      (fun _ _ _ => trivial))
    exact fun _ => Prog.triple_pure (fun _ h => h.2.1)
  exact hrun.value rfl h

/-- Which slot `r_efi_get_primary` finds behind the entry that `BootNext` names. -/
lemma primary_of_next {order : List RaucSlot} (horder : order.Perm config.slots.values)
    (hreadable : EfiReadable vars)
    {t : RaucSlot} (ht : t ∈ config.slots.values) {e : EfiBootentry} (he : efiNext vars = some e)
    (hte : namedLike t e = true) : Prog.observe (rEfiGetPrimary order) vars = .value t := by
  apply observe_rEfiGetPrimary hreadable
  rw [he]
  simp [efiEntrySlot_eq horder ht hte]

/-- A slot is bad and not the primary one exactly if neither the order nor `BootNext` names it. -/
lemma promise_bad_iff (hslot : slot ∈ config.slots.values) :
    EfiPromise config vars (.setState slot false) ↔ EfiReadable vars ∧
      (∀ e ∈ efiOrder vars, namedLike slot e = false) ∧
        (∀ e, efiNext vars = some e → namedLike slot e = false) := by
  constructor
  · rintro ⟨hstate, hprimary⟩
    have hreadable := readable_of_observe hstate
    rw [observe_rEfiGetState hreadable] at hstate
    refine ⟨hreadable, ?_, ?_⟩
    · intro e he
      cases hnamed : namedLike slot e with
      | false => rfl
      | true =>
        rw [(efiSlotEntry_isSome_iff slot _).mpr ⟨e, he, hnamed⟩] at hstate
        exact absurd hstate (by simp)
    · intro e he
      cases hnamed : namedLike slot e with
      | false => rfl
      | true =>
        exact absurd (primary_of_next (List.Perm.refl _) hreadable hslot he hnamed)
          (hprimary _ (List.Perm.refl _) _)
  · rintro ⟨hreadable, horder, hnext⟩
    refine ⟨?_, ?_⟩
    · rw [observe_rEfiGetState hreadable]
      cases hsome : (efiSlotEntry slot (efiOrder vars)).isSome with
      | false => rfl
      | true =>
        obtain ⟨e, he, hnamed⟩ := (efiSlotEntry_isSome_iff slot _).mp hsome
        rw [horder e he] at hnamed
        exact absurd hnamed (by simp)
    · intro order _ fates hvalue
      have hfound := (rEfiGetPrimary_triple vars order).value rfl hvalue
      obtain ⟨e, he, hfirst⟩ := List.exists_of_findSome?_eq_some hfound
      have hnamed := namedLike_of_efiEntrySlot hfirst
      rcases List.mem_append.mp he with he | he
      · rw [hnext e (Option.mem_toList.mp he)] at hnamed
        exact absurd hnamed (by simp)
      · rw [horder e he] at hnamed
        exact absurd hnamed (by simp)

/-- The slot of the first entry is the primary one exactly if `BootNext` names no other slot. -/
lemma promise_primary_iff (hslot : slot ∈ config.slots.values) (hreadable : EfiReadable vars)
    {e : EfiBootentry}
    {rest : List EfiBootentry} (horder : efiOrder vars = e :: rest) (he : namedLike slot e = true) :
    EfiPromise config vars (.setPrimary slot) ↔
      ∀ n, efiNext vars = some n → ∀ t ∈ config.slots.values, namedLike t n = true → t = slot := by
  constructor
  · intro hprimary n hn t ht htn
    have ht' := primary_of_next (List.Perm.refl _) hreadable ht hn htn
    rw [hprimary _ (List.Perm.refl _)] at ht'
    exact (Outcome.value.inj ht').symm
  · intro hnext order hperm
    apply observe_rEfiGetPrimary hreadable
    have hfirst := efiEntrySlot_eq hperm hslot he
    cases hn : efiNext vars with
    | none => simp [horder, hfirst]
    | some n =>
      cases ht : efiEntrySlot order n with
      | none => simp [horder, hfirst, ht]
      | some t =>
        have hmem : t ∈ config.slots.values := by
          unfold efiEntrySlot at ht
          exact hperm.mem_iff.mp (List.mem_of_find?_eq_some ht)
        simp [ht, hnext n hn t hmem (namedLike_of_efiEntrySlot ht)]

end Contract

section Granted

variable (tool : EfiTool) {config : RaucConfig} {vars : EfiVars} {slot : RaucSlot} {b : String}

/-- A call that writes the order. -/
lemma efiWritten (hslot : slot ∈ config.slots.values) (hb : slot.bootname = some b) (prepend : Bool)
    (h : EfiPrepared tool slot vars prepend) {vars' : EfiVars}
    (hvars : vars' = (efiPrepared tool slot vars).withOrder
      (efiNewOrder slot prepend (efiPrepared tool slot vars))) :
    efiOrder vars' = efiNewOrder slot prepend (efiPrepared tool slot vars) ∧
      efiNext vars' = efiNext (efiPrepared tool slot vars) ∧
      (EfiReadable vars' ↔ efiNewOrder slot prepend (efiPrepared tool slot vars) ≠ []) ∧
      (EfiReadable vars' → EfiFrame config slot vars vars') := by
  have hmem : ∀ e ∈ efiNewOrder slot prepend (efiPrepared tool slot vars),
      e ∈ efiEntries (efiPrepared tool slot vars) :=
    fun e he => efiNewOrder_mem prepend he
  have horder := efiOrder_withOrder hmem
  rw [hvars]
  refine ⟨horder, rfl, readable_withOrder h.2.1 hmem, fun hreadable => ?_⟩
  apply efiFrame_of_order hslot h.1 hreadable
  rw [horder, efiNewOrder_filter, prepared_order_filter tool vars hslot hb]

lemma efiBad_iff (hslot : slot ∈ config.slots.values) (hb : slot.bootname = some b)
    (h : EfiPrepared tool slot vars false) {vars' : EfiVars}
    (hvars : vars' = (efiPrepared tool slot vars).withOrder
      (efiNewOrder slot false (efiPrepared tool slot vars))) :
    (EfiPromise config vars' (.setState slot false) ∧ EfiFrame config slot vars vars') ↔
      EfiGranted tool config vars (.setState slot false) := by
  obtain ⟨horder, hnext, hread, hframe⟩ := efiWritten tool hslot hb false h hvars
  have hnew : efiNewOrder slot false (efiPrepared tool slot vars) =
      (efiOrder (efiPrepared tool slot vars)).eraseP (namedLike slot) := by
    simp [efiNewOrder]
  have hnone := eraseP_none_iff (namedLike slot) (efiOrder (efiPrepared tool slot vars))
  rw [hnew] at horder hread
  constructor
  · rintro ⟨hpromise, -⟩
    obtain ⟨hreadable, hlisted, hbootnext⟩ := (promise_bad_iff hslot).mp hpromise
    rw [horder] at hlisted
    rw [hnext] at hbootnext
    obtain ⟨e, he⟩ := List.exists_mem_of_ne_nil _ (hread.mp hreadable)
    exact ⟨hbootnext, hnone.mp hlisted, e, List.mem_of_mem_eraseP he, hlisted e he⟩
  · rintro ⟨hbootnext, hcount, e, he, hnamed⟩
    have hkept : e ∈ (efiOrder (efiPrepared tool slot vars)).eraseP (namedLike slot) :=
      (List.mem_eraseP_of_neg (by simp [hnamed])).mpr he
    have hreadable := hread.mpr (List.ne_nil_of_mem hkept)
    refine ⟨(promise_bad_iff hslot).mpr ⟨hreadable, ?_, ?_⟩, hframe hreadable⟩
    · rw [horder]
      exact hnone.mpr hcount
    · rw [hnext]
      exact hbootnext

/-- A call that puts the slot at the front of the order. -/
lemma efiFront (hslot : slot ∈ config.slots.values) (hb : slot.bootname = some b)
    (h : EfiPrepared tool slot vars true) {vars' : EfiVars}
    (hvars : vars' = (efiPrepared tool slot vars).withOrder
      (efiNewOrder slot true (efiPrepared tool slot vars))) :
    EfiFrame config slot vars vars' ∧
      (EfiPromise config vars' (.setPrimary slot) ↔
        ∀ e, efiNext vars = some e → ∀ t ∈ config.slots.values, namedLike t e = true →
          t = slot) := by
  obtain ⟨horder, hnext, hread, hframe⟩ := efiWritten tool hslot hb true h hvars
  obtain ⟨entry, hentry⟩ := Option.isSome_iff_exists.mp (h.2.2 rfl)
  have hnamed : namedLike slot entry = true := List.find?_some hentry
  have hnew : efiNewOrder slot true (efiPrepared tool slot vars) =
      entry :: (efiOrder (efiPrepared tool slot vars)).eraseP (namedLike slot) := by
    simp [efiNewOrder, hentry]
  rw [hnew] at horder hread
  have hreadable := hread.mpr (List.cons_ne_nil _ _)
  refine ⟨hframe hreadable, ?_⟩
  rw [promise_primary_iff hslot hreadable horder hnamed, hnext]
  rcases efiNext_prepared tool vars hslot hb with hsame | ⟨hbefore, e, hafter, hname⟩
  · rw [hsame]
  · rw [hbefore, hafter]
    constructor
    · intro _ e' he'
      exact absurd he' (by simp)
    · rintro - e' he' t ht hte
      obtain rfl := Option.some.inj he'
      simp only [namedLike, hname, decide_eq_true_eq] at hte
      exact config.bootname_unique t ht slot hslot b hte.symm hb

/-- Setting `BootNext` to the entry of the slot. -/
lemma efiTemporary (hslot : slot ∈ config.slots.values) (hb : slot.bootname = some b)
    (h : EfiPrepared tool slot vars true) {vars' : EfiVars}
    (hvars : vars' = (efiPrepared tool slot vars).setNext
      (((efiSlotEntry slot (efiEntries (efiPrepared tool slot vars))).map EfiBootentry.num).getD
        "")) :
    EfiPromise config vars' (.setPrimary slot) ∧ EfiFrame config slot vars vars' := by
  obtain ⟨entry, hentry⟩ := Option.isSome_iff_exists.mp (h.2.2 rfl)
  have hnamed : namedLike slot entry = true := List.find?_some hentry
  have hmem : entry ∈ efiEntries (efiPrepared tool slot vars) := List.mem_of_find?_eq_some hentry
  obtain ⟨num, hnum⟩ := efiEntries_num hmem
  have hset : vars' = { efiPrepared tool slot vars with bootNext := some num } := by
    rw [hvars, hentry, Option.map_some, Option.getD_some, ← hnum, EfiVars.setNext, dif_pos num.2]
  have hreadable : EfiReadable vars' := by
    rw [hset]
    exact h.2.1
  have hnext : efiNext vars' = some entry := by
    rw [hset]
    have hfound := byBootnum_of_mem hmem
    rw [← hnum] at hfound
    exact hfound
  constructor
  · intro order hperm
    exact primary_of_next hperm hreadable hslot hnext hnamed
  · apply efiFrame_of_order hslot h.1 hreadable
    have horder : efiOrder vars' = efiOrder (efiPrepared tool slot vars) := by
      rw [hset]
      rfl
    rw [horder, prepared_order_filter tool vars hslot hb]

/-- A successful call keeps its promise and leaves the other slots alone exactly if the state before
it lets it. -/
lemma efiCall_contract_iff (call : EfiCall) (hslot : call.slot ∈ config.slots.values)
    (hbootname : call.slot.bootname ≠ none) :
    Prog.Triple (· = vars) (call.run tool config)
      (fun _ s => (EfiPromise config s call ∧ EfiFrame config call.slot vars s) ↔
        EfiGranted tool config vars call)
      (fun _ _ => True) := by
  obtain ⟨b, hb⟩ := Option.ne_none_iff_exists'.mp hbootname
  apply Prog.triple_consequence (efiCall_run tool vars call hb) (fun _ h => h) _ (fun _ _ h => h)
  rintro _ s ⟨hs, hprepared⟩
  cases call with
  | setState slot good =>
    cases good with
    | false => exact efiBad_iff tool hslot hb hprepared hs
    | true => exact ⟨fun _ => trivial, fun _ => ⟨trivial, (efiFront tool hslot hb hprepared hs).1⟩⟩
  | setPrimary slot =>
    simp only [efiAfter, EfiCall.slot] at hs
    simp only [EfiGranted]
    cases hnext : config.efiUseBootnext with
    | true =>
      rw [hnext, if_pos rfl] at hs
      exact ⟨fun _ => .inl rfl, fun _ => efiTemporary tool hslot hb hprepared hs⟩
    | false =>
      rw [hnext, if_neg Bool.false_ne_true] at hs
      obtain ⟨hframe, hpromise⟩ := efiFront tool hslot hb hprepared hs
      simp only [EfiCall.slot] at hframe hpromise ⊢
      rw [hpromise]
      simp [hframe]

/-- A slot that no call of the run named, while every call was granted. -/
lemma efiRun_frame {vars₀ : EfiVars} {calls : List EfiCall}
    (hrun : EfiRun tool config (EfiGranted tool config) vars₀ calls vars) (t : RaucSlot)
    (ht : t ∈ config.slots.values) (htb : t.bootname ≠ none)
    (hcalls : ∀ call ∈ calls, t ≠ call.slot) :
    Prog.observe (rEfiGetState t) vars = Prog.observe (rEfiGetState t) vars₀ := by
  induction hrun with
  | nil => rfl
  | snoc hrun call fates hslot hbootname hallowed hsuccess ih =>
    have hbefore := ih (fun c hc => hcalls c (by simp [hc]))
    have hkept := ((efiCall_contract_iff tool call hslot hbootname).value rfl hsuccess).mpr hallowed
    rw [hkept.2.state t ht htb (hcalls call (by simp)), hbefore]

/-- After any sequence of successful calls, the next successful call keeps its promise and leaves
the other slots alone exactly if the state before it lets it. In a run in which every call was
granted, a slot that no call named still has the state it had at the beginning. -/
theorem efiRun_contract_iff (tool : EfiTool) (config : RaucConfig) (vars₀ : EfiVars) :
    (∀ (calls : List EfiCall) (vars : EfiVars), EfiRun tool config (fun _ _ => True) vars₀
      calls vars →
      ∀ (call : EfiCall) (fates : Nat → Fate), call.slot ∈ config.slots.values →
        call.slot.bootname ≠ none →
        (call.run tool config ⟨vars, fates⟩).1 = .value () →
        ((EfiPromise config (call.run tool config ⟨vars, fates⟩).2.state call ∧
          EfiFrame config call.slot vars (call.run tool config ⟨vars, fates⟩).2.state) ↔
            EfiGranted tool config vars call)) ∧
    (∀ (calls : List EfiCall) (vars : EfiVars), EfiRun tool config (EfiGranted tool config) vars₀
      calls vars →
      ∀ t ∈ config.slots.values, t.bootname ≠ none → (∀ call ∈ calls, t ≠ call.slot) →
        Prog.observe (rEfiGetState t) vars = Prog.observe (rEfiGetState t) vars₀) := by
  constructor
  · intro calls vars _ call fates hslot hbootname hsuccess
    exact (efiCall_contract_iff tool call hslot hbootname).value rfl hsuccess
  · intro calls vars hrun t ht htb hcalls
    exact efiRun_frame tool hrun t ht htb hcalls

end Granted

section Pair

def bootnum0 : Bootnum := ⟨"0000", by decide⟩

def bootnum1 : Bootnum := ⟨"0001", by decide⟩

/-- The two slots have their entries, both of them in the order. -/
def pairEfiVars (bootNext : Option Bootnum) : EfiVars where
  entries := (Table.empty.set bootnum0 "A").set bootnum1 "B"
  bootOrder := "0000,0001"
  bootNext := bootNext

/-- A tool that creates no entries. -/
def fullTool : EfiTool := ⟨fun _ => none, by simp⟩

/-- Marking `A` bad and then making `B` primary on the two-slot system. -/
theorem efiRun_contract_pair :
    ∃ vars, EfiRun fullTool pairConfig (fun _ _ => True) (pairEfiVars none)
      [.setState (bootableSlot "rootfs.0" "A") false] vars ∧
      ((EfiCall.setPrimary (bootableSlot "rootfs.1" "B")).run fullTool pairConfig ⟨vars, fun _ =>
        .succeeds⟩).1 = .value () ∧
      EfiPromise pairConfig
        ((EfiCall.setPrimary (bootableSlot "rootfs.1" "B")).run fullTool pairConfig ⟨vars, fun _ =>
          .succeeds⟩).2.state
        (.setPrimary (bootableSlot "rootfs.1" "B")) := by
  have hnil : EfiRun fullTool pairConfig (fun _ _ => True) (pairEfiVars none) []
    (pairEfiVars none) := .nil
  have hrun := hnil.snoc (.setState (bootableSlot "rootfs.0" "A") false) (fun _ => .succeeds)
    (by decide) (by decide)
    trivial (by decide)
  have hnext :
      efiNext ((EfiCall.setState (bootableSlot "rootfs.0" "A") false).run fullTool pairConfig
      ⟨pairEfiVars none, fun _ => .succeeds⟩).2.state = none := by decide
  refine ⟨_, hrun, by decide, ?_⟩
  apply (((efiRun_contract_iff fullTool pairConfig (pairEfiVars none)).1 _ _ hrun _ _
    (by decide) (by decide)
    (by decide)).mpr _).1
  refine .inr (fun e he => ?_)
  rw [hnext] at he
  exact absurd he (by simp)

/-- `BootNext` names `A`, and marking `A` bad leaves it there: `A` is still the primary slot. -/
theorem efi_bad_slot_is_primary :
    ((EfiCall.setState (bootableSlot "rootfs.0" "A") false).run fullTool pairConfig
        ⟨pairEfiVars (some bootnum0), fun _ => .succeeds⟩).1 = .value () ∧
      Prog.observe (rEfiGetPrimary pairConfig.slots.values)
        ((EfiCall.setState (bootableSlot "rootfs.0" "A") false).run fullTool pairConfig
          ⟨pairEfiVars (some bootnum0), fun _ => .succeeds⟩).2.state =
            .value (bootableSlot "rootfs.0" "A") := by
  decide

end Pair

end RaucUpdate
