import RaucUpdate.Proofs.BootErrors

/-!
# Marking slots

`mark_run` selects slots and makes one request for each of them. Either all requests are made, or
the first one that fails is the last one.
-/

namespace RaucUpdate

open Library

variable {κ α β : Type} {ctx : BootContext κ}

section Requests

def AllMarked (requests : List BootRequest) (before after : MarkLog κ) : Prop :=
  after.passed = before.passed ++ requests ∧ after.marked = before.marked ++ requests

/-- The last request that was made did not succeed. -/
def CutShort (requests : List BootRequest) (before after : MarkLog κ) : Prop :=
  ∃ done request rest, requests = done ++ request :: rest ∧
    after.passed = before.passed ++ (done ++ [request]) ∧ after.marked = before.marked ++ done

/-- The program makes the requests in order up to the first one that fails, and reports the
failure. -/
def Marks (p : MarkProg κ (Except String α)) (requests : List BootRequest) : Prop :=
  ∀ w, (∃ a, (p w).1 = .value (.ok a)) ∧ AllMarked requests w.state (p w).2.state ∨
    (∀ a, (p w).1 ≠ .value (.ok a)) ∧ CutShort requests w.state (p w).2.state

/-- The program ends with a message and makes no request. -/
def Refuses (p : MarkProg κ (Except String α)) : Prop :=
  ∃ message, ∀ w, p w = (.value (.error message), w)

lemma markThen_of_ok {first : MarkProg κ (Except String β)} {next : MarkProg κ (Except String α)}
    {w : World (MarkLog κ)} {u : β} (h : (first w).1 = .value (.ok u)) :
    markThen first next w = next (first w).2 := by
  have hfirst : first w = (.value (.ok u), (first w).2) := Prod.ext h rfl
  unfold markThen
  rw [Prog.bind_of_value hfirst]

lemma markThen_of_not_ok {first : MarkProg κ (Except String β)}
    {next : MarkProg κ (Except String α)}
    {w : World (MarkLog κ)} (h : ∀ u, (first w).1 ≠ .value (.ok u)) :
    (∀ a, (markThen first next w).1 ≠ .value (.ok a)) ∧ (markThen first next w).2 =
      (first w).2 := by
  unfold markThen
  cases hrun : first w with
  | mk o w' =>
    rw [hrun] at h
    cases o with
    | exit x =>
      rw [Prog.bind_of_exit hrun]
      exact ⟨by simp, rfl⟩
    | value r =>
      rw [Prog.bind_of_value hrun]
      cases r with
      | ok u => exact absurd rfl (h u)
      | error message => exact ⟨by rintro a ⟨⟩, rfl⟩

lemma marks_return (a : α) : Marks (return .ok a : MarkProg κ (Except String α)) [] := by
  intro w
  exact .inl ⟨⟨a, rfl⟩, (List.append_nil _).symm, (List.append_nil _).symm⟩

lemma CutShort.append {requests : List BootRequest} {before after : MarkLog κ}
    (h : CutShort requests before after)
    (more : List BootRequest) : CutShort (requests ++ more) before after := by
  obtain ⟨done, request, rest, rfl, hpassed, hmarked⟩ := h
  exact ⟨done, request, rest ++ more, by simp, hpassed, hmarked⟩

lemma marks_then {first : MarkProg κ (Except String β)} {next : MarkProg κ (Except String α)}
    {requests more : List BootRequest} (h : Marks first requests) (h' : Marks next more) :
    Marks (markThen first next) (requests ++ more) := by
  intro w
  rcases h w with ⟨⟨u, hu⟩, hpassed, hmarked⟩ | ⟨hfail, hcut⟩
  · rw [markThen_of_ok hu]
    rcases h' (first w).2 with ⟨hok, hpassed', hmarked'⟩ | ⟨hfail, done, request, rest, rfl,
      hpassed', hmarked'⟩
    · refine .inl ⟨hok, ?_, ?_⟩
      · rw [hpassed', hpassed, List.append_assoc]
      · rw [hmarked', hmarked, List.append_assoc]
    · refine .inr ⟨hfail, requests ++ done, request, rest, by simp, ?_, ?_⟩
      · rw [hpassed', hpassed]
        simp
      · rw [hmarked', hmarked, List.append_assoc]
  · have hnext := @markThen_of_not_ok κ α β first next w hfail
    rw [hnext.2]
    exact .inr ⟨hnext.1, hcut.append more⟩

lemma marks_request (request : BootRequest) : Marks (markRequest ctx request) [request] := by
  intro w
  simp only [markRequest, Bind.bind, Prog.bind, Prog.modify, Prog.attempt, Prog.zoom]
  cases hrun : request.reported ctx ⟨w.state.boot, w.fates⟩ with
  | mk o w' =>
    cases o with
    | value u => exact .inl ⟨⟨(), rfl⟩, rfl, rfl⟩
    | exit x =>
      cases x with
      | error e => exact .inr ⟨by rintro a ⟨⟩, [], request, [], rfl, rfl, (List.append_nil _).symm⟩
      | aborted reason =>
        exact .inr ⟨by rintro a ⟨⟩, [], request, [], rfl, rfl, (List.append_nil _).symm⟩
      | stopped => exact .inr ⟨by rintro a ⟨⟩, [], request, [], rfl, rfl, (List.append_nil _).symm⟩

lemma marks_allBad (slots : List RaucSlot) :
    Marks (markAllBad ctx slots) (slots.map (fun s => .setState s false)) := by
  induction slots with
  | nil => exact marks_return ()
  | cons slot rest ih => exact marks_then (marks_request _) ih

lemma refuses_return (message : String) :
    Refuses (return .error message : MarkProg κ (Except String α)) :=
  ⟨message, fun _ => rfl⟩

lemma Refuses.then {first : MarkProg κ (Except String β)} {next : MarkProg κ (Except String α)}
    (h : Refuses first) : Refuses (markThen first next) := by
  obtain ⟨message, hmessage⟩ := h
  refine ⟨message, fun w => ?_⟩
  unfold markThen
  rw [Prog.bind_of_value (hmessage w)]
  rfl

end Requests

section Selection

/-- The booted slot, the first one should there be several. -/
def bootedSlot (order : List RaucSlot) : Option RaucSlot :=
  order.find? (fun slot => decide (slot.state = .booted))

/-- Another bootable root slot of the class. -/
def OtherRoot (order : List RaucSlot) (booted s : RaucSlot) : Prop :=
  s ∈ order ∧ s.sclass = booted.sclass ∧ s.parent = none ∧ s.bootname ≠ none ∧ s.name ≠ booted.name

/-- The slots that an identifier stands for. -/
def Requested (order : List RaucSlot) (identifier : String) (s : RaucSlot) : Prop :=
  if identifier = "booted" then bootedSlot order = some s
  else if identifier = "other" then ∃ booted, bootedSlot order = some booted ∧
    OtherRoot order booted s
  else s ∈ order ∧ s.name = identifier

def otherRoots (order : List RaucSlot) (booted : RaucSlot) : List RaucSlot :=
  order.filter (fun slot => decide (slot.sclass = booted.sclass ∧ slot.parent = none ∧
    slot.bootname ≠ none ∧
    slot.name ≠ booted.name))

lemma mem_otherRoots {order : List RaucSlot} {booted s : RaucSlot} :
    s ∈ otherRoots order booted ↔ OtherRoot order booted s := by
  simp [otherRoots, OtherRoot]

variable {order slots : List RaucSlot} {identifier : String}

lemma getSlots_booted {booted : RaucSlot} (h : bootedSlot order = some booted) :
    getSlotsByIdentifier order "booted" = .ok [booted] := by
  unfold bootedSlot at h
  simp [getSlotsByIdentifier, h]

lemma getSlots_other {booted : RaucSlot} (h : bootedSlot order = some booted) :
    getSlotsByIdentifier order "other" = .ok (otherRoots order booted) ∧
      otherRoots order booted ≠ [] ∨
      (∃ e, getSlotsByIdentifier order "other" = .error e) ∧ otherRoots order booted = [] := by
  have hne : ¬ "other" = "booted" := by decide
  unfold bootedSlot at h
  unfold getSlotsByIdentifier
  simp only [hne, if_false, if_true, h]
  cases hroots : otherRoots order booted with
  | nil =>
    unfold otherRoots at hroots
    rw [hroots]
    exact .inr ⟨⟨_, rfl⟩, rfl⟩
  | cons s rest =>
    unfold otherRoots at hroots
    rw [hroots]
    exact .inl ⟨rfl, by simp⟩

/-- What is selected are the slots that the identifier stands for, each of them once. -/
lemma getSlots_requested (c : SlotConfig) (horder : order.Perm c.slots.values)
    (h : getSlotsByIdentifier order identifier = .ok slots) :
    slots ≠ [] ∧ slots.Nodup ∧ (∀ s, s ∈ slots ↔ Requested order identifier s) ∧
      (identifier ≠ "booted" → ∀ s ∈ slots, s.bootname ≠ none) := by
  unfold Requested
  by_cases hbooted : identifier = "booted"
  · subst hbooted
    cases hslot : bootedSlot order with
    | none =>
      unfold bootedSlot at hslot
      simp [getSlotsByIdentifier, hslot] at h
    | some booted =>
      rw [getSlots_booted hslot] at h
      obtain rfl := Except.ok.inj h
      simp [eq_comm]
  · by_cases hother : identifier = "other"
    · subst hother
      cases hslot : bootedSlot order with
      | none =>
        unfold bootedSlot at hslot
        simp [getSlotsByIdentifier, hslot] at h
      | some booted =>
        rcases getSlots_other hslot with ⟨hok, hne⟩ | ⟨⟨e, he⟩, -⟩
        · obtain rfl := Except.ok.inj (hok.symm.trans h)
          refine ⟨hne, (horder.nodup_iff.mpr c.values_nodup).filter _, ?_, ?_⟩
          · intro s
            simp [mem_otherRoots]
          · intro _ s hs
            exact (mem_otherRoots.mp hs).2.2.2.1
        · rw [h] at he
          exact absurd he (by simp)
    · simp only [hbooted, hother, if_false]
      unfold getSlotsByIdentifier at h
      simp only [hbooted, hother, if_false] at h
      split at h
      · split at h
        · exact absurd h (by simp)
        · rename_i slot hfind
          have hmem := List.mem_of_find?_eq_some hfind
          have hname : slot.name = identifier := by simpa using List.find?_some hfind
          split_ifs at h with hboot
          obtain rfl := Except.ok.inj h
          refine ⟨by simp, by simp, ?_, fun _ => by simpa using hboot⟩
          intro s
          rw [List.mem_singleton]
          constructor
          · rintro rfl
            exact ⟨hmem, hname⟩
          · rintro ⟨hs, hsname⟩
            exact c.eq_of_name_eq (horder.mem_iff.mp hs) (horder.mem_iff.mp hmem)
              (hsname.trans hname.symm)
      · exact absurd h (by simp)

end Selection

section Contract

/-- The request that a state asks for. -/
def markFor (state : String) (s : RaucSlot) : Option BootRequest :=
  if state = "good" then some (.setState s true)
  else if state = "bad" then some (.setState s false)
  else if state = "active" then some (.setPrimary s)
  else none

/-- The requested slots are marked and no others, but for the other root slots that a late fallback
could use. -/
def ExactlyMarked (order : List RaucSlot) (preventLateFallback : Bool) (state identifier : String)
    (marked : List BootRequest) : Prop :=
  marked.Nodup ∧ ∀ request, request ∈ marked ↔
    (∃ s, Requested order identifier s ∧ markFor state s = some request) ∨
      preventLateFallback = true ∧ state = "good" ∧ identifier = "booted" ∧
        ∃ booted s, bootedSlot order = some booted ∧ OtherRoot order booted s ∧
          request = .setState s false

/-- Only slots with a bootname are passed on, and without a failed request a success marks exactly
what was requested and a failure nothing. -/
def MarkContract (order : List RaucSlot) (preventLateFallback : Bool) (state identifier : String)
    (final : Outcome GError (Except String MarkReply) × World (MarkLog κ)) : Prop :=
  (∀ request ∈ final.2.state.passed, ∃ slot, request.slot = some slot ∧ slot.bootname ≠ none) ∧
  (final.2.state.marked = final.2.state.passed →
    (∃ reply, final.1 = .value (.ok reply) ∧
      ExactlyMarked order preventLateFallback state identifier final.2.state.marked) ∨
    ∃ message, final.1 = .value (.error message) ∧ final.2.state.marked = [])

/-- The booted slot has a bootname when it is to be marked, and there are other slots to mark when a
late fallback is prevented. -/
def BootedMarkable (order : List RaucSlot) (preventLateFallback : Bool)
    (state identifier : String) : Prop :=
  identifier = "booted" → (state = "good" ∨ state = "bad" ∨ state = "active") →
    ∀ booted, bootedSlot order = some booted → booted.bootname ≠ none ∧
      (state = "good" → preventLateFallback = true → ∃ s, OtherRoot order booted s)

variable {order : List RaucSlot} {preventLateFallback : Bool} {state identifier : String}
  {p : MarkProg κ (Except String MarkReply)}

lemma contract_of_refuses (h : Refuses p) (boot : BootState κ) (fates : Nat → Fate) :
    MarkContract order preventLateFallback state identifier (p ⟨{ boot }, fates⟩) := by
  obtain ⟨message, hmessage⟩ := h
  rw [hmessage]
  exact ⟨by simp, fun _ => .inr ⟨message, rfl, rfl⟩⟩

lemma contract_of_marks {requests : List BootRequest} (h : Marks p requests)
    (hnamed : ∀ request ∈ requests, ∃ slot, request.slot = some slot ∧ slot.bootname ≠ none)
    (hexact : ExactlyMarked order preventLateFallback state identifier requests)
    (boot : BootState κ)
    (fates : Nat → Fate) : MarkContract order preventLateFallback state identifier
      (p ⟨{ boot }, fates⟩) := by
  unfold MarkContract
  rcases h ⟨{ boot }, fates⟩ with ⟨⟨reply, hreply⟩, hpassed, hmarked⟩ | ⟨-, done, request, rest,
    rfl, hpassed, hmarked⟩
  · simp only [List.nil_append] at hpassed hmarked
    rw [hpassed, hmarked]
    exact ⟨hnamed, fun _ => .inl ⟨reply, hreply, hexact⟩⟩
  · simp only [List.nil_append] at hpassed hmarked
    rw [hpassed, hmarked]
    refine ⟨fun r hr => hnamed r ?_, fun hsame => ?_⟩
    · rw [List.mem_append, List.mem_singleton] at hr
      rcases hr with hr | rfl
      · exact List.mem_append_left _ hr
      · simp
    · have hlen := congrArg List.length hsame
      simp at hlen

end Contract

section Runs

variable {state identifier : String} {slots : List RaucSlot}
  {late : MarkProg κ (Except String Unit)}

lemma markRunThen_selected (h : getSlotsByIdentifier ctx.order identifier = .ok slots) :
    markRunThen ctx late state identifier =
      markThen (markSlots ctx late state identifier slots)
        (return .ok (markedReply slots state)) := by
  simp [markRunThen, h]

lemma refuses_unselected {e : GError} (h : getSlotsByIdentifier ctx.order identifier = .error e) :
    Refuses (markRunThen ctx late state identifier) := by
  simp only [markRunThen, h]
  exact refuses_return _

lemma marks_bad (h : getSlotsByIdentifier ctx.order identifier = .ok slots) :
    Marks (markRunThen ctx late "bad" identifier) (slots.map (fun s => .setState s false)) := by
  have hne : ¬ "bad" = "good" := by decide
  rw [markRunThen_selected h, ← List.append_nil (slots.map _), markSlots, if_neg hne, if_pos rfl]
  exact marks_then (marks_allBad slots) (marks_return _)

lemma marks_active {slot : RaucSlot} (h : getSlotsByIdentifier ctx.order identifier = .ok [slot]) :
    Marks (markRunThen ctx late "active" identifier) [.setPrimary slot] := by
  have hne : ¬ "active" = "good" := by decide
  have hne' : ¬ "active" = "bad" := by decide
  rw [markRunThen_selected h, ← List.append_nil [BootRequest.setPrimary slot], markSlots,
    if_neg hne, if_neg hne',
    if_pos rfl]
  exact marks_then (marks_request _) (marks_return _)

lemma marks_good {slot : RaucSlot} {requests : List BootRequest}
    (h : getSlotsByIdentifier ctx.order identifier = .ok [slot])
    (hlate : Marks (if identifier = "booted" then late else return .ok ()) requests) :
    Marks (markRunThen ctx late "good" identifier) (.setState slot true :: requests) := by
  rw [markRunThen_selected h, ← List.append_nil (BootRequest.setState slot true :: requests),
    markSlots, if_pos rfl]
  exact marks_then (marks_then (marks_request (.setState slot true)) hlate) (marks_return _)

/-- Several slots are refused where one is needed, and so is an unknown state. -/
lemma refuses_several {first second : RaucSlot} {rest : List RaucSlot}
    (h : getSlotsByIdentifier ctx.order identifier = .ok (first :: second :: rest))
    (hstate : state = "good" ∨ state = "active") :
      Refuses (markRunThen ctx late state identifier) := by
  rw [markRunThen_selected h, markSlots]
  apply Refuses.then
  rcases hstate with rfl | rfl
  · rw [if_pos rfl]
    exact refuses_return _
  · rw [if_neg (by decide), if_neg (by decide), if_pos rfl]
    exact refuses_return _

lemma refuses_unknown (h : getSlotsByIdentifier ctx.order identifier = .ok slots)
    (hgood : state ≠ "good")
    (hbad : state ≠ "bad") (hactive : state ≠ "active") :
      Refuses (markRunThen ctx late state identifier) := by
  rw [markRunThen_selected h, markSlots, if_neg hgood, if_neg hbad, if_neg hactive]
  exact (refuses_return _).then

lemma markOtherBad_cases {booted : RaucSlot} (h : bootedSlot ctx.order = some booted) :
    Marks (markOtherBad ctx) ((otherRoots ctx.order booted).map (fun s => .setState s false)) ∧
        otherRoots ctx.order booted ≠ [] ∨
      Refuses (markOtherBad ctx) ∧ otherRoots ctx.order booted = [] := by
  unfold markOtherBad
  rcases getSlots_other h with ⟨hok, hne⟩ | ⟨⟨e, he⟩, hnil⟩
  · refine .inl ⟨?_, hne⟩
    have hmarks : Marks (markRunThen ctx (return .ok ()) "bad" "other") _ := marks_bad hok
    rw [← List.append_nil (List.map _ _)]
    exact marks_then hmarks (marks_return ())
  · exact .inr ⟨(refuses_unselected he).then, hnil⟩

end Runs

section Exactness

variable {order slots : List RaucSlot} {preventLateFallback : Bool} {state identifier : String}

lemma exactlyMarked_map {request : RaucSlot → BootRequest}
    (hrequest : ∀ s, markFor state s = some (request s))
    (hinj : Function.Injective request) (hnodup : slots.Nodup)
    (hmem : ∀ s, s ∈ slots ↔ Requested order identifier s)
    (hlate : ¬ (preventLateFallback = true ∧ state = "good" ∧ identifier = "booted")) :
    ExactlyMarked order preventLateFallback state identifier (slots.map request) := by
  refine ⟨hnodup.map hinj, fun r => ?_⟩
  simp only [List.mem_map, hmem, hrequest, Option.some.injEq]
  constructor
  · exact .inl
  · rintro (h | ⟨hprevent, hstate, hid, -⟩)
    · exact h
    · exact absurd ⟨hprevent, hstate, hid⟩ hlate

/-- With the late fallback prevented, the good mark of the booted slot comes with the bad marks of
the others. -/
lemma exactlyMarked_late {booted : RaucSlot} (hbooted : bootedSlot order = some booted)
    (hnodup : order.Nodup) :
    ExactlyMarked order true "good" "booted"
      (.setState booted true :: (otherRoots order booted).map (fun s => .setState s false)) := by
  constructor
  · rw [List.nodup_cons]
    constructor
    · simp
    · apply (hnodup.filter _).map
      intro s t hst
      exact (BootRequest.setState.inj hst).1
  · intro r
    simp only [List.mem_cons, List.mem_map, mem_otherRoots, Requested, if_true, hbooted,
      Option.some.injEq, markFor,
      true_and]
    constructor
    · rintro (rfl | ⟨s, hs, rfl⟩)
      · exact .inl ⟨booted, rfl, rfl⟩
      · exact .inr ⟨booted, s, rfl, hs, rfl⟩
    · rintro (⟨s, rfl, rfl⟩ | ⟨b, s, rfl, hs, rfl⟩)
      · exact .inl rfl
      · exact .inr ⟨s, hs, rfl⟩

end Exactness

section Contracts

variable {preventLateFallback : Bool} {state identifier : String}

lemma contract_of_markable (ctx : BootContext κ)
    (hmarkable : BootedMarkable ctx.order preventLateFallback state identifier)
    (boot : BootState κ) (fates : Nat → Fate) :
    MarkContract ctx.order preventLateFallback state identifier
      (markRun ctx preventLateFallback state identifier ⟨{ boot }, fates⟩) := by
  unfold markRun
  cases hselect : getSlotsByIdentifier ctx.order identifier with
  | error e => exact contract_of_refuses (refuses_unselected hselect) boot fates
  | ok slots =>
    obtain ⟨hne, hnodup, hmem, hnamed⟩ :=
      getSlots_requested ctx.config.toSlotConfig ctx.order_perm hselect
    by_cases hknown : state = "good" ∨ state = "bad" ∨ state = "active"
    · have hnamed' : ∀ s ∈ slots, s.bootname ≠ none := by
        by_cases hid : identifier = "booted"
        · intro s hs
          have hbooted := (hmem s).mp hs
          rw [Requested, if_pos hid] at hbooted
          exact (hmarkable hid hknown s hbooted).1
        · exact hnamed hid
      rcases hknown with rfl | rfl | rfl
      · match slots, hne with
        | [slot], _ =>
          by_cases hlate : preventLateFallback = true ∧ identifier = "booted"
          · obtain ⟨rfl, rfl⟩ := hlate
            have hbooted : bootedSlot ctx.order = some slot := by simpa [Requested] using hmem slot
            obtain ⟨other, hother⟩ := (hmarkable rfl (.inl rfl) slot hbooted).2 rfl rfl
            rcases markOtherBad_cases hbooted with ⟨hmarks, -⟩ | ⟨-, hnil⟩
            · refine contract_of_marks (marks_good hselect (by simpa using hmarks)) ?_ ?_ boot fates
              · intro r hr
                rcases List.mem_cons.mp hr with rfl | hr
                · exact ⟨slot, rfl, hnamed' slot (by simp)⟩
                · obtain ⟨s, hs, rfl⟩ := List.mem_map.mp hr
                  exact ⟨s, rfl, (mem_otherRoots.mp hs).2.2.2.1⟩
              · exact exactlyMarked_late hbooted (ctx.order_perm.nodup_iff.mpr
                  ctx.config.values_nodup)
            · rw [← mem_otherRoots, hnil] at hother
              exact absurd hother List.not_mem_nil
          · have hnothing :
                Marks (if identifier = "booted" then if preventLateFallback then markOtherBad ctx
                else return .ok () else return .ok ()) [] := by
              split_ifs with hid hprevent
              · exact absurd ⟨hprevent, hid⟩ hlate
              · exact marks_return ()
              · exact marks_return ()
            refine contract_of_marks (marks_good hselect hnothing) ?_ ?_ boot fates
            · intro r hr
              rw [List.mem_singleton.mp hr]
              exact ⟨slot, rfl, hnamed' slot (by simp)⟩
            · change ExactlyMarked _ _ _ _ ([slot].map (fun s => BootRequest.setState s true))
              exact exactlyMarked_map (fun s => rfl) (fun s t hst =>
                (BootRequest.setState.inj hst).1) hnodup hmem
                (fun h => hlate ⟨h.1, h.2.2⟩)
        | first :: second :: rest, _ =>
          exact contract_of_refuses (refuses_several hselect (.inl rfl)) boot fates
      · refine contract_of_marks (marks_bad hselect) ?_ ?_ boot fates
        · intro r hr
          obtain ⟨s, hs, rfl⟩ := List.mem_map.mp hr
          exact ⟨s, rfl, hnamed' s hs⟩
        · exact exactlyMarked_map (fun s => rfl) (fun s t hst => (BootRequest.setState.inj hst).1)
            hnodup hmem (by simp)
      · match slots, hne with
        | [slot], _ =>
          refine contract_of_marks (marks_active hselect) ?_ ?_ boot fates
          · intro r hr
            rw [List.mem_singleton.mp hr]
            exact ⟨slot, rfl, hnamed' slot (by simp)⟩
          · change ExactlyMarked _ _ _ _ ([slot].map (fun s => BootRequest.setPrimary s))
            exact exactlyMarked_map (fun s => rfl) (fun s t hst => BootRequest.setPrimary.inj hst)
              hnodup hmem
              (by simp)
        | first :: second :: rest, _ =>
          exact contract_of_refuses (refuses_several hselect (.inr rfl)) boot fates
    · simp only [not_or] at hknown
      exact contract_of_refuses (refuses_unknown hselect hknown.1 hknown.2.1 hknown.2.2) boot fates

/-- The same system with another boot loader. -/
def BootContext.withBootloader (ctx : BootContext κ) (bootloader : Option String) : BootContext κ :=
  { ctx with config := { ctx.config with systemBootloader := bootloader },
             order_perm := ctx.order_perm }

lemma markRequest_noop (slot : RaucSlot) (good : Bool) (w : World (MarkLog κ)) :
    markRequest (ctx.withBootloader (some "noop")) (.setState slot good) w =
      (.value (.ok ()), ⟨{ w.state with passed := w.state.passed ++ [.setState slot good],
                                        marked := w.state.marked ++ [.setState slot good] },
                                          w.fates⟩) := by
  have hbackend : (ctx.withBootloader (some "noop")).backend = some .noop := by
    change backendOf (some "noop") = some .noop
    decide
  simp only [markRequest, BootRequest.reported, BootRequest.run, rBootSetState, hbackend]
  rfl

/-- When nothing can be marked after the booted slot was marked as good, the run fails with a marked
slot. -/
lemma not_contract_of_refuses {booted : RaucSlot} (hbooted : bootedSlot ctx.order = some booted)
    (hlate : Refuses (markOtherBad (ctx.withBootloader (some "noop")))) (boot : BootState κ)
    (fates : Nat → Fate) :
    ¬ MarkContract ctx.order true "good" "booted"
      (markRun (ctx.withBootloader (some "noop")) true "good" "booted" ⟨{ boot }, fates⟩) := by
  obtain ⟨message, hmessage⟩ := hlate
  have hselect : getSlotsByIdentifier (ctx.withBootloader (some "noop")).order "booted" =
      .ok [booted] :=
    getSlots_booted hbooted
  have hrun : markRun (ctx.withBootloader (some "noop")) true "good" "booted" ⟨{ boot }, fates⟩ =
      (.value (.error message), ⟨⟨boot, [.setState booted true], [.setState booted true]⟩,
        fates⟩) := by
    unfold markRun
    rw [markRunThen_selected hselect, markSlots, if_pos rfl]
    simp only [markSingle, if_true]
    unfold markThen
    simp only [Bind.bind, Prog.bind, markRequest_noop, hmessage]
    rfl
  rw [hrun]
  rintro ⟨-, hmarked⟩
  rcases hmarked rfl with ⟨reply, hreply, -⟩ | ⟨-, -, hnil⟩
  · exact absurd hreply (by simp)
  · exact absurd hnil (by simp)

/-- The first request of a run is made in any case. -/
lemma Marks.first_named {p : MarkProg κ (Except String MarkReply)} {order : List RaucSlot}
    {request : BootRequest}
    {more : List BootRequest} (h : Marks p (request :: more)) {boot : BootState κ}
    {fates : Nat → Fate}
    (hcontract : MarkContract order preventLateFallback state identifier (p ⟨{ boot }, fates⟩)) :
    ∃ slot, request.slot = some slot ∧ slot.bootname ≠ none := by
  apply hcontract.1
  rcases h ⟨{ boot }, fates⟩ with ⟨-, hpassed, -⟩ | ⟨-, done, last, rest, hsplit, hpassed, -⟩
  · rw [hpassed]
    simp
  · rw [hpassed]
    cases done with
    | nil =>
      obtain ⟨rfl, -⟩ := List.cons.inj hsplit
      simp
    | cons first done =>
      obtain ⟨rfl, -⟩ := List.cons.inj hsplit
      simp

lemma markable_of_contract (ctx : BootContext κ) (boot : BootState κ) (fates : Nat → Fate)
    (h : MarkContract ctx.order preventLateFallback state identifier
      (markRun (ctx.withBootloader (some "noop")) preventLateFallback state identifier
        ⟨{ boot }, fates⟩)) :
    BootedMarkable ctx.order preventLateFallback state identifier := by
  rintro rfl hknown booted hbooted
  have hselect : getSlotsByIdentifier (ctx.withBootloader (some "noop")).order "booted" =
      .ok [booted] :=
    getSlots_booted hbooted
  have hname : ∀ {request : BootRequest} {more : List BootRequest}, request.slot = some booted →
      Marks (markRun (ctx.withBootloader (some "noop")) preventLateFallback state "booted")
        (request :: more) →
      booted.bootname ≠ none := by
    intro request more hslot hmarks
    obtain ⟨slot, hslot', hnamed⟩ := hmarks.first_named h
    obtain rfl := Option.some.inj (hslot.symm.trans hslot')
    exact hnamed
  rcases hknown with rfl | rfl | rfl
  · cases preventLateFallback with
    | false => exact ⟨hname rfl (marks_good hselect (marks_return ())), by simp⟩
    | true =>
      have hbooted' : bootedSlot (ctx.withBootloader (some "noop")).order = some booted := hbooted
      rcases markOtherBad_cases hbooted' with ⟨hmarks, hne⟩ | ⟨hrefuses, -⟩
      · obtain ⟨other, hother⟩ := List.exists_mem_of_ne_nil _ hne
        exact ⟨hname rfl (marks_good hselect hmarks), fun _ _ => ⟨other, mem_otherRoots.mp hother⟩⟩
      · exact absurd h (not_contract_of_refuses hbooted hrefuses boot fates)
  · exact ⟨hname rfl (marks_bad hselect), by simp⟩
  · exact ⟨hname rfl (marks_active hselect), by simp⟩

/-- From every state of the boot loader and for every choice of failing steps, marking keeps its
contract with all boot loaders exactly when the booted slot, where it is concerned, has a bootname,
and is not the only bootable root slot of its class when its late fallback is prevented. -/
theorem markRun_contract_iff (ctx : BootContext κ) (boot : BootState κ) (fates : Nat → Fate)
    (preventLateFallback : Bool) (state identifier : String) :
    (∀ bootloader, MarkContract ctx.order preventLateFallback state identifier
      (markRun (ctx.withBootloader bootloader) preventLateFallback state identifier
        ⟨{ boot }, fates⟩)) ↔
      BootedMarkable ctx.order preventLateFallback state identifier := by
  constructor
  · intro h
    exact markable_of_contract ctx boot fates (h (some "noop"))
  · intro hmarkable bootloader
    exact contract_of_markable (ctx.withBootloader bootloader) hmarkable boot fates

def loneSlot : RaucSlot := { bootableSlot "rootfs.0" "A" with state := .booted }

/-- A system that runs from its only bootable slot. -/
def loneContext : BootContext Unit where
  config :=
    { slots := ⟨[("rootfs.0", loneSlot)], by decide⟩
      name_key := by decide
      bootname_unique := by decide
      bootname_nonempty := by decide
      bootname_plain := by decide
      child_no_bootname := by decide
      parent_is_root := by decide }
  tool := fullTool
  script := ⟨fun _ _ _ => "", fun _ _ _ _ => ()⟩
  order := [loneSlot]
  order_perm := List.Perm.refl _

/-- A booted slot without bootname is passed to the boot loader, and preventing the late fallback of
the only bootable slot fails although the slot is marked. -/
theorem markRun_breaks_contract :
    (¬ MarkContract [namelessSlot] false "good" "booted"
      (markRun ((namelessContext "noop").withBootloader (some "noop")) false "good" "booted"
        (Prog.calm { boot := badFirstState }))) ∧
    ¬ MarkContract [loneSlot] true "good" "booted"
      (markRun (loneContext.withBootloader (some "noop")) true "good" "booted"
        (Prog.calm { boot := badFirstState })) := by
  constructor
  · intro h
    have hmarkable := markable_of_contract (namelessContext "noop") badFirstState _ h
    exact (hmarkable rfl (.inl rfl) namelessSlot (by decide)).1 rfl
  · intro h
    have hmarkable := markable_of_contract loneContext badFirstState _ h
    obtain ⟨s, hs, -, -, -, hname⟩ := (hmarkable rfl (.inl rfl) loneSlot (by decide)).2 rfl rfl
    have hs' : s = loneSlot := List.mem_singleton.mp hs
    rw [hs'] at hname
    exact hname rfl

end Contracts

end RaucUpdate
