import RaucUpdate.Library.MirroredPrograms
import RaucUpdate.Model.InstallSteps
import RaucUpdate.Proofs.InstallPlans
import RaucUpdate.Proofs.Progress

/-!
# Installations with progress

The progress calls of the default install handler fit together, whichever step fails, and the
handler does with them what `launchAndWaitDefaultHandler` does without them.
-/

namespace RaucUpdate

open Library

section Ledger

/-- No copy of the image file goes beyond this size. -/
def CopyWork.Within (work : CopyWork) (size : Nat) : Prop :=
  ∀ blocks, .stream blocks ∈ work.copies → size ≠ 0 → blocks.sum ≤ size

/-- The calls so far fit the steps under way, none of them has aborted, and no copy to come is
longer than the manifest says. -/
structure Ledger (calls : List ProgressCall) (progress : ProgressState)
    (copies : Nat → RaucImage → CopyWork) : Prop where
  nested : NestedCalls {} calls
  run : progressCalls {} calls = .ok progress
  fits : ∀ n image, (copies n image).Within (manifestSize image)

lemma Ledger.inv {calls : List ProgressCall} {progress : ProgressState}
    {copies : Nat → RaucImage → CopyWork}
    (h : Ledger calls progress copies) : ProgressInv progress :=
  progressCalls_inv progressInv_start h.nested h.run

lemma progressCalls_snoc {st next next' : ProgressState} {calls : List ProgressCall}
    {c : ProgressCall}
    (hrun : progressCalls st calls = .ok next) (hc : progressCall next c = .ok next') :
    progressCalls st (calls ++ [c]) = .ok next' := by
  induction calls generalizing st with
  | nil =>
    obtain rfl : st = next := Except.ok.inj hrun
    change (progressCall st c >>= fun st => progressCalls st []) = .ok next'
    rw [hc]
    rfl
  | cons call calls ih =>
    obtain ⟨first, hfirst, hrest⟩ := progressCalls_cons hrun
    change (progressCall st call >>= fun st => progressCalls st (calls ++ [c])) = .ok next'
    rw [hfirst]
    exact ih hrest

lemma nestedCalls_snoc {st next : ProgressState} {calls : List ProgressCall} {c : ProgressCall}
    (h : NestedCalls st calls) (hrun : progressCalls st calls = .ok next) (hc : NestedCall next c) :
    NestedCalls st (calls ++ [c]) := by
  induction calls generalizing st with
  | nil =>
    obtain rfl : st = next := Except.ok.inj hrun
    refine ⟨hc, ?_⟩
    cases progressCall st c with
    | ok next => trivial
    | error e => trivial
  | cons call calls ih =>
    obtain ⟨first, hfirst, hrest⟩ := progressCalls_cons hrun
    refine ⟨h.1, ?_⟩
    rw [hfirst]
    exact ih (h.next hfirst) hrest

variable {K : List InstallerEvent → Prop} {c : ProgressCall}

/-- A call that fits and returns is written down. -/
lemma makeCall_hidden {P P' : InstallerState → Prop}
    (h : ∀ st, P st → Ledger st.calls st.progress st.copies ∧ NestedCall st.progress c ∧
      ∃ next, progressCall st.progress c = .ok next ∧
      (Ledger (st.calls ++ [c]) next st.copies → P' { st.called c with progress := next })) :
    Prog.Hidden InstallerState.install P (makeCall c) () P' := by
  intro w hw
  obtain ⟨hledger, hnested, next, hnext, hP'⟩ := h w.state hw
  refine ⟨{ w.state.called c with progress := next }, ?_, rfl, hP' ?_⟩
  · unfold makeCall
    rw [Prog.bind_of_value (show Prog.modify _ w =
      (.value (), ⟨w.state.called c, w.fates⟩) from rfl),
      Prog.bind_of_value (show Prog.read _ = (.value (w.state.called c),
        ⟨w.state.called c, w.fates⟩) from rfl)]
    rw [show progressCall (w.state.called c).progress c = .ok next from hnext]
    rfl
  · exact ⟨nestedCalls_snoc hledger.nested hledger.run hnested,
      progressCalls_snoc hledger.run hnext, hledger.fits⟩

/-- The steps under way, with a fact about the events so far. -/
def OnStack (steps : List RaucProgressStep) (K : List InstallerEvent → Prop)
    (st : InstallerState) : Prop :=
  Ledger st.calls st.progress st.copies ∧ st.progress.progress = steps ∧ K st.events

/-- A step of this name and weight is about to end below `step`; it may succeed if all its substeps
are done. -/
def Ending (success : Bool) (name : String) (weight : Nat) (step : RaucProgressStep)
    (outer : List RaucProgressStep)
    (K : List InstallerEvent → Prop) (st : InstallerState) : Prop :=
  Ledger st.calls st.progress st.copies ∧ K st.events ∧ ∃ child parent, st.progress.progress =
    child :: parent :: outer ∧ child.name = name ∧
    child.weight = weight ∧ (success = true → child.substepsDone = child.substepsTotal) ∧
    parent.advance weight = step.advance weight

variable {step : RaucProgressStep} {outer : List RaucProgressStep} {name description : String}
  {substeps weight : Nat}

lemma begin_hidden (hroom : step.substepsDone + weight ≤ step.substepsTotal) (hpos : 0 < weight) :
    Prog.Hidden InstallerState.install (OnStack (step :: outer) K)
      (makeCall (.begin name description substeps weight)) ()
      (OnStack (substepOf step name description substeps weight :: step :: outer) K) := by
  apply makeCall_hidden
  rintro st ⟨hledger, hstack, hK⟩
  have hinv := hledger.inv
  obtain ⟨⟨progress, reports⟩, hprogress⟩ : ∃ p, st.progress = p := ⟨_, rfl⟩
  rw [hprogress] at hledger hstack hinv ⊢
  obtain rfl : progress = step :: outer := hstack
  refine ⟨hledger, ?_, _, rContextBeginStepWeighted_inner hinv.underWay.1 hinv.underWay.2.1 hroom
    (by omega) name
    description substeps, fun hnext => ⟨hnext, rfl, hK⟩⟩
  intro parent hparent
  obtain rfl : step = parent := Option.some.inj hparent
  exact hroom

lemma end_hidden {success : Bool} :
    Prog.Hidden InstallerState.install (Ending success name weight step outer K)
      (makeCall (.end_ name success)) ()
      (OnStack (step.advance weight :: outer) K) := by
  apply makeCall_hidden
  rintro st ⟨hledger, hK, child, parent, hstack, rfl, rfl, hall, hadvance⟩
  have hinv := hledger.inv
  obtain ⟨⟨progress, reports⟩, hprogress⟩ : ∃ p, st.progress = p := ⟨_, rfl⟩
  rw [hprogress] at hledger hstack hinv ⊢
  obtain rfl : progress = child :: parent :: outer := hstack
  obtain ⟨last, message, -, -, hend⟩ :=
    @rContextEndStep_inner child parent outer reports success hinv.underWay.1 hinv.underWay.2.1 hall
  refine ⟨hledger, ⟨by simp, ?_⟩, _, hend, fun hnext => ⟨hnext, ?_, hK⟩⟩
  · intro top htop
    obtain rfl : child = top := Option.some.inj htop
    rfl
  · rw [hadvance]

end Ledger

section Percentages

/-- A step without substeps is under way below `step`, and its percentages so far are at most
`last`. -/
def Leaf (name : String) (weight : Nat) (last : Int) (step : RaucProgressStep)
    (outer : List RaucProgressStep)
    (K : List InstallerEvent → Prop) (st : InstallerState) : Prop :=
  Ledger st.calls st.progress st.copies ∧ K st.events ∧ ∃ child parent, st.progress.progress =
    child :: parent :: outer ∧ child.name = name ∧
    child.weight = weight ∧ child.substepsTotal = 0 ∧ child.lastExplicitPercent ≤ last ∧
    parent.advance weight = step.advance weight

variable {K : List InstallerEvent → Prop} {step : RaucProgressStep} {outer : List RaucProgressStep}
  {name : String}
  {weight : Nat} {last : Int}

lemma leaf_new {description : String} {st : InstallerState}
    (h : OnStack (substepOf step name description 0 weight :: step :: outer) K st) :
      Leaf name weight 0 step outer K st := by
  obtain ⟨hledger, hstack, hK⟩ := h
  exact ⟨hledger, hK, _, _, hstack, rfl, rfl, rfl, le_refl _, rfl⟩

lemma Leaf.ending {st : InstallerState} (h : Leaf name weight last step outer K st)
    (success : Bool) :
    Ending success name weight step outer K st := by
  obtain ⟨hledger, hK, child, parent, hstack, hname, hweight, hleaf, -, hadvance⟩ := h
  have hway := hledger.inv.underWay
  rw [hstack] at hway
  have hbound := hway.2.1.substeps
  exact ⟨hledger, hK, child, parent, hstack, hname, hweight, fun _ => by omega, hadvance⟩

lemma rContextSendProgress_stack {st next : ProgressState}
    (h : rContextSendProgress none st = .ok next) :
    next.progress = st.progress := by
  unfold rContextSendProgress at h
  cases hstack : st.progress with
  | nil =>
    rw [hstack] at h
    cases h
  | cons top rest =>
    rw [hstack] at h
    dsimp only at h
    by_cases hover : 100 < truncate (shownPercentage top rest)
    · rw [if_pos hover] at h
      cases h
    · rw [if_neg hover] at h
      rw [← Except.ok.inj h]

/-- A percentage of the innermost step that is not above 100. -/
lemma Leaf.set {st : InstallerState} (h : Leaf name weight last step outer K st) {percent : Int}
    (hmost : percent ≤ 100) :
    ∃ next, rContextSetStepPercentage name percent st.progress = .ok next ∧ ∀ c,
      (Ledger (st.calls ++ [c]) next st.copies →
        Leaf name weight (max last percent) step outer K
          { st.called c with progress := next }) := by
  obtain ⟨hledger, hK, child, parent, hstack, rfl, hweight, hleaf, hlast, hadvance⟩ := h
  have hinv := hledger.inv
  obtain ⟨⟨progress, reports⟩, hprogress⟩ : ∃ p, st.progress = p := ⟨_, rfl⟩
  rw [hprogress] at hledger hstack hinv ⊢
  obtain rfl : progress = child :: parent :: outer := hstack
  obtain ⟨next, hnext, -, -⟩ := progressInv_set hinv hleaf hmost
  refine ⟨next, hnext, fun c hledger' => ⟨hledger', hK, ?_⟩⟩
  by_cases hless : percent - child.lastExplicitPercent < 1
  · rw [rContextSetStepPercentage_same hless] at hnext
    obtain rfl := Except.ok.inj hnext
    exact ⟨child, parent, rfl, rfl, hweight, hleaf, by omega, hadvance⟩
  · rw [rContextSetStepPercentage_more hless] at hnext
    have hkept : next.progress = child.set percent :: parent.raise
        (child.set percent).percentDone :: outer := by
      split at hnext
      · rw [← Except.ok.inj hnext]
      · rw [rContextSendProgress_stack hnext]
    exact ⟨child.set percent, parent.raise (child.set percent).percentDone, hkept, rfl,
      hweight, hleaf,
      le_max_right _ _, hadvance⟩

/-- Percentages of the copying that stay within 100, if the last one so far is at most `n`. -/
def Paced : Nat → List ProgressCall → Prop
  | _, [] => True
  | n, .set name percent :: rest =>
    name = "copy_image" ∧ 0 ≤ percent ∧ percent ≤ 100 ∧ Paced (max n percent.toNat) rest
  | n, .inc name :: rest => name = "copy_image" ∧ n + 1 ≤ 100 ∧ Paced (n + 1) rest
  | _, _ => False

lemma Leaf.nested {st : InstallerState} (h : Leaf name weight last step outer K st) :
    2 ≤ st.progress.progress.length ∧ ∀ top ∈ st.progress.progress.head?,
      top.name = name ∧ top.substepsTotal = 0 ∧ top.lastExplicitPercent ≤ last := by
  obtain ⟨-, -, child, parent, hstack, hname, -, hleaf, hlast, -⟩ := h
  rw [hstack]
  refine ⟨by simp, fun top htop => ?_⟩
  obtain rfl : child = top := Option.some.inj htop
  exact ⟨hname, hleaf, hlast⟩

lemma paced_hidden (calls : List ProgressCall) :
    Prog.Hidden InstallerState.install (fun st => ∃ n : Nat, Leaf "copy_image" weight n step outer
      K st ∧ Paced n calls)
      (Prog.each makeCall calls) () (fun st => ∃ n : Nat, Leaf "copy_image" weight n step outer K
        st ∧ Paced n []) := by
  refine Prog.hidden_each
    (fun calls st => ∃ n : Nat, Leaf "copy_image" weight n step outer K st ∧ Paced n calls) ?_ calls
  intro call rest
  apply makeCall_hidden
  rintro st ⟨n, hleaf, hpaced⟩
  obtain ⟨hdepth, htop⟩ := hleaf.nested
  cases call with
  | set called percent =>
    obtain ⟨rfl, hlow, hmost, hrest⟩ := hpaced
    obtain ⟨next, hnext, hafter⟩ := hleaf.set hmost
    refine ⟨hleaf.1, ⟨hlow, hmost, hdepth, fun top ht => ⟨(htop top ht).1, (htop top ht).2.1⟩⟩,
      next, hnext,
      fun hledger => ⟨max n percent.toNat, ?_, hrest⟩⟩
    have hbound : (max n percent.toNat : Nat) = max (n : Int) percent := by omega
    rw [hbound]
    exact hafter _ hledger
  | inc called =>
    obtain ⟨rfl, hmost, hrest⟩ := hpaced
    obtain ⟨top, under, htops⟩ :=
      List.exists_cons_of_length_pos (show 0 < st.progress.progress.length by omega)
    obtain ⟨-, hsub, hlast⟩ := htop top (by rw [htops]; rfl)
    have hbelow : top.lastExplicitPercent + 1 ≤ 100 := by omega
    obtain ⟨next, hnext, hafter⟩ := hleaf.set hbelow
    refine ⟨hleaf.1, ⟨hdepth, fun other ht => ?_⟩, next, ?_, fun hledger => ⟨n + 1, ?_, hrest⟩⟩
    · obtain ⟨hname, hleaf', hlast'⟩ := htop other ht
      exact ⟨hname, hleaf', by omega⟩
    · change rContextIncStepPercentage "copy_image" st.progress = .ok next
      unfold rContextIncStepPercentage
      rw [htops]
      exact hnext
    · obtain ⟨hledger', hK, child, parent, hstack, hname, hweight, hleaf', hlast', hadvance⟩ :=
        hafter (.inc "copy_image") hledger
      exact ⟨hledger', hK, child, parent, hstack, hname, hweight, hleaf',
        hlast'.trans (by omega), hadvance⟩
  | begin _ _ _ _ => exact absurd hpaced not_false
  | end_ _ _ => exact absurd hpaced not_false

end Percentages

section Copying

lemma Paced.take {calls : List ProgressCall} {n : Nat} (h : Paced n calls) (k : Nat) :
    Paced n (calls.take k) := by
  induction calls generalizing n k with
  | nil => simp [Paced]
  | cons call rest ih =>
    cases k with
    | zero => trivial
    | succ k =>
      cases call with
      | set name percent => exact ⟨h.1, h.2.1, h.2.2.1, ih h.2.2.2 k⟩
      | inc name => exact ⟨h.1, h.2.1, ih h.2.2 k⟩
      | begin _ _ _ _ => exact absurd h not_false
      | end_ _ _ => exact absurd h not_false

lemma paced_set {n percent : Nat} {rest : List ProgressCall} (hmost : percent ≤ 100)
    (hrest : Paced (max n percent) rest) :
    Paced n (setCopied percent :: rest) :=
  ⟨rfl, by omega, by omega, by rwa [Int.toNat_natCast]⟩

/-- Percentages that are only set. -/
def OnlySet (calls : List ProgressCall) : Prop := ∀ call ∈ calls, ∃ percent : Nat, percent ≤ 100 ∧
    call = setCopied percent

lemma OnlySet.paced {calls : List ProgressCall} (h : OnlySet calls) (n : Nat) : Paced n calls := by
  induction calls generalizing n with
  | nil => trivial
  | cons call rest ih =>
    obtain ⟨percent, hmost, rfl⟩ := h call (by simp)
    exact paced_set hmost (ih (fun other hother => h other (by simp [hother])) _)

lemma Paced.append {calls more : List ProgressCall} {n : Nat} (h : Paced n calls)
    (hmore : OnlySet more) :
    Paced n (calls ++ more) := by
  induction calls generalizing n with
  | nil => exact hmore.paced n
  | cons call rest ih =>
    cases call with
    | set name percent => exact ⟨h.1, h.2.1, h.2.2.1, ih h.2.2.2⟩
    | inc name => exact ⟨h.1, h.2.1, ih h.2.2⟩
    | begin _ _ _ _ => exact absurd h not_false
    | end_ _ _ => exact absurd h not_false

lemma paced_inc {k n : Nat} {rest : List ProgressCall} (hmost : n + k ≤ 100)
    (hrest : Paced (n + k) rest) :
    Paced n (List.replicate k (.inc "copy_image") ++ rest) := by
  induction k generalizing n with
  | zero => exact hrest
  | succ k ih => exact ⟨rfl, by omega, ih (by omega) (by rwa [Nat.add_assoc, Nat.add_comm 1 k])⟩

/-- At most 18 segments begin while an index is built. -/
lemma length_hashFileCalls {count : Nat} (h : 9 ≤ count) : (hashFileCalls count).length ≤ 18 := by
  have hq : 0 < count / 9 := by omega
  have hcount : count < 18 * (count / 9) := by omega
  unfold hashFileCalls
  rw [List.length_map]
  have hnodup :
      (((List.range count).filter (fun i => i % (count / 9) == 0)).map
      (fun i => i / (count / 9))).Nodup := by
    apply List.Nodup.map_on
    · intro i hi j hj hij
      have hi0 : i % (count / 9) = 0 := by simpa using (List.mem_filter.mp hi).2
      have hj0 : j % (count / 9) = 0 := by simpa using (List.mem_filter.mp hj).2
      rw [← Nat.div_add_mod i (count / 9), ← Nat.div_add_mod j (count / 9), hi0, hj0, hij]
    · exact List.nodup_range.filter _
  have hsubset : ((List.range count).filter (fun i => i % (count / 9) == 0)).map
      (fun i => i / (count / 9)) ⊆
      List.range 18 := by
    intro k hk
    obtain ⟨i, hi, rfl⟩ := List.mem_map.mp hk
    have hlt : i < count := List.mem_range.mp (List.mem_filter.mp hi).1
    exact List.mem_range.mpr (Nat.div_lt_of_lt_mul (by rw [Nat.mul_comm]; omega))
  have hlen := (List.subperm_of_subset hnodup hsubset).length_le
  simpa using hlen

lemma indexCalls_eq {index : Option Nat} (h : ∀ count ∈ index.toList, 9 ≤ count) :
    ∃ k ≤ 18, indexCalls index = List.replicate k (.inc "copy_image") := by
  cases index with
  | none => exact ⟨0, by omega, rfl⟩
  | some count =>
    refine ⟨(hashFileCalls count).length, length_hashFileCalls (h count (by simp)), ?_⟩
    change hashFileCalls count = _
    unfold hashFileCalls
    simp [List.map_const']

lemma chunkPercentage_le {chunkCount c : Nat} (h : c < chunkCount) :
    chunkPercentage chunkCount c ≤ 100 := by
  have hmod : (c + 1) * 80 % 2 ^ 32 ≤ (c + 1) * 80 := Nat.mod_le _ _
  have hdiv : (c + 1) * 80 % 2 ^ 32 / chunkCount ≤ 80 := by
    apply Nat.div_le_of_le_mul
    calc (c + 1) * 80 % 2 ^ 32 ≤ (c + 1) * 80 := hmod
      _ ≤ chunkCount * 80 := Nat.mul_le_mul_right 80 h
  unfold chunkPercentage
  omega

lemma AdaptiveRun.paced (run : AdaptiveRun) : Paced 0 run.calls := by
  have henough := run.enough
  simp only [List.mem_append] at henough
  obtain ⟨a, ha, htarget⟩ := indexCalls_eq (fun count hc => henough count (.inl (.inl hc)))
  obtain ⟨b, hb, hactive⟩ := indexCalls_eq (fun count hc => henough count (.inl (.inr hc)))
  obtain ⟨d, hd, hsource⟩ := indexCalls_eq (fun count hc => henough count (.inr hc))
  have hchunks :
      OnlySet ((List.range run.chunkCount).map
      (fun c => setCopied (chunkPercentage run.chunkCount c))) := by
    intro call hcall
    obtain ⟨c, hc, rfl⟩ := List.mem_map.mp hcall
    exact ⟨_, chunkPercentage_le (List.mem_range.mp hc), rfl⟩
  unfold AdaptiveRun.calls
  rw [htarget, hactive, hsource]
  simp only [List.append_assoc, List.cons_append]
  apply Paced.take
  apply paced_inc (by omega)
  apply @paced_set _ 10 _ (by omega)
  apply paced_inc (by omega)
  apply @paced_set _ 20 _ (by omega)
  exact paced_inc (by omega) (hchunks.paced _)

lemma le_of_mem_sumsFrom {start s : Nat} {blocks : List Nat} (h : s ∈ sumsFrom start blocks) :
    s ≤ start + blocks.sum := by
  induction blocks generalizing start with
  | nil => simp [sumsFrom] at h
  | cons block rest ih =>
    rw [List.sum_cons]
    rcases List.mem_cons.mp h with rfl | h
    · omega
    · have := ih h
      omega

/-- A copy that does not go beyond the size it is compared with. -/
lemma onlySet_copyCalls {size : Nat} {blocks : List Nat} (h : size ≠ 0 → blocks.sum ≤ size) :
    OnlySet (copyCalls size blocks) := by
  unfold copyCalls
  by_cases hzero : size = 0
  · rw [if_pos hzero]
    intro call hcall
    simp at hcall
  · rw [if_neg hzero]
    intro call hcall
    obtain ⟨sum, hsum, rfl⟩ := List.mem_map.mp hcall
    have hle : sum * 100 / size ≤ 100 := by
      apply Nat.div_le_of_le_mul
      have := le_of_mem_sumsFrom hsum
      have := h hzero
      omega
    refine ⟨sum * 100 / size, hle, congrArg setCopied ?_⟩
    generalize sum * 100 / size = percent at hle
    apply Int.bmod_eq_of_le <;> omega

lemma CopyWork.paced {work : CopyWork} {size : Nat} (h : work.Within size) :
    Paced 0 (work.calls size) := by
  unfold CopyWork.calls
  apply Paced.append
  · cases work.adaptive with
    | none => trivial
    | some run => exact run.paced
  · intro call hcall
    obtain ⟨copy, hmem, hcopy⟩ := List.mem_flatMap.mp hcall
    cases copy with
    | stream blocks => exact onlySet_copyCalls (h blocks hmem) call hcopy
    | splice length blocks within => exact onlySet_copyCalls (fun _ => within) call hcopy

lemma reportCopy_hidden {K : List InstallerEvent → Prop} {step : RaucProgressStep}
    {outer : List RaucProgressStep}
    {weight : Nat} {image : RaucImage} :
    Prog.Hidden InstallerState.install (Leaf "copy_image" weight 0 step outer K)
      (reportCopy image) ()
      (fun st => ∃ n : Nat, Leaf "copy_image" weight n step outer K st) := by
  apply Prog.hidden_read_bind
  intro st hleaf
  refine Prog.hidden_bind (a := ()) (M := fun st' => ∃ n : Nat,
    Leaf "copy_image" weight n step outer K st' ∧
    Paced n ((st.copies 0 image).calls (manifestSize image))) ?_ ?_
  · refine Prog.hidden_modify (fun _ => by rfl) ?_
    rintro st' rfl
    obtain ⟨⟨hnested, hrun, hfits⟩, hleaf⟩ := hleaf
    exact ⟨0, ⟨⟨hnested, hrun, fun n => hfits (n + 1)⟩, hleaf⟩, CopyWork.paced (hfits 0 image)⟩
  · intro w hw
    obtain ⟨s, hrun, hview, n, hend, -⟩ := paced_hidden _ w hw
    exact ⟨s, hrun, hview, n, hend⟩

end Copying

section Frames

variable {α : Type} {K : List InstallerEvent → Prop} {step : RaucProgressStep}
  {outer : List RaucProgressStep}
  {name description : String} {weight : Nat}

/-- The assertion for an error; at any other exit the calls still fit. -/
def ExitAt (A : InstallerState → Prop) : Exit GError → InstallerState → Prop
  | .error _, st => A st
  | .aborted _, st => Ledger st.calls st.progress st.copies
  | .stopped, st => Ledger st.calls st.progress st.copies

lemma exitAt_of {A B : InstallerState → Prop} (hA : ∀ st, A st → B st)
    (hledger : ∀ st, A st → Ledger st.calls st.progress st.copies) {x : Exit GError}
    {st : InstallerState} (h : A st) :
    ExitAt B x st := by
  cases x with
  | error e => exact hA st h
  | aborted reason => exact hledger st h
  | stopped => exact hledger st h

lemma ExitAt.mono {A B : InstallerState → Prop} (hA : ∀ st, A st → B st) {x : Exit GError}
    {st : InstallerState}
    (h : ExitAt A x st) : ExitAt B x st := by
  cases x with
  | error e => exact hA st h
  | aborted reason => exact h
  | stopped => exact h

/-- Below a leaf the percentages have no part in the assertion. -/
def InLeaf (name : String) (weight : Nat) (step : RaucProgressStep) (outer : List RaucProgressStep)
    (K : List InstallerEvent → Prop) (st : InstallerState) : Prop :=
  ∃ n : Nat, Leaf name weight n step outer K st

lemma InLeaf.ledger {st : InstallerState} (h : InLeaf name weight step outer K st) :
    Ledger st.calls st.progress st.copies := by
  obtain ⟨n, hleaf⟩ := h
  exact hleaf.1

/-- A step without substeps around a program. -/
lemma inStep_mirrors {p : InstallerProg α} {q : InstallProg α}
    (hroom : step.substepsDone + weight ≤ step.substepsTotal) (hpos : 0 < weight)
    (hp : Prog.Mirrors InstallerState.install (Leaf name weight 0 step outer K) p q
      (fun _ => InLeaf name weight step outer K) (ExitAt (InLeaf name weight step outer K))) :
    Prog.Mirrors InstallerState.install (OnStack (step :: outer) K)
      (inStep name description 0 weight p) q
      (fun _ => OnStack (step.advance weight :: outer) K)
        (ExitAt (OnStack (step.advance weight :: outer) K)) := by
  apply Prog.mirrors_hidden_bind (begin_hidden hroom hpos)
  refine Prog.mirrors_attempt_end (Prog.mirrors_consequence hp (fun _ => leaf_new) (fun _ _ h => h)
    (fun _ _ h => h))
    ?_ ?_ (fun _ _ h => h) (fun _ h => h)
  · intro a
    refine Prog.mirrors_hidden_bind (a := ()) (M := OnStack (step.advance weight :: outer) K) ?_
      (Prog.mirrors_pure (fun _ h => h))
    rintro w ⟨n, hleaf⟩
    exact end_hidden w (hleaf.ending true)
  · intro e
    refine Prog.mirrors_hidden_bind (a := ()) (M := OnStack (step.advance weight :: outer) K) ?_
      (Prog.mirrors_exit (fun _ h => h))
    rintro w ⟨n, hleaf⟩
    exact end_hidden w (hleaf.ending false)

/-- A program on the installation alone. -/
lemma onInstall_mirrors {P : InstallerState → Prop}
    (hP : ∀ install st, P st → P { st with install := install })
    (hledger : ∀ st, P st → Ledger st.calls st.progress st.copies) (q : InstallProg α) :
    Prog.Mirrors InstallerState.install P (onInstall q) q (fun _ => P) (ExitAt P) :=
  Prog.mirrors_consequence (Prog.mirrors_zoom (fun _ _ => rfl) hP q) (fun _ h => h) (fun _ _ h => h)
    (fun _ _ h => exitAt_of (fun _ h => h) hledger h)

lemma onInstall_onStack {steps : List RaucProgressStep} (q : InstallProg α) :
    Prog.Mirrors InstallerState.install (OnStack steps K) (onInstall q) q (fun _ => OnStack steps K)
      (ExitAt (OnStack steps K)) :=
  onInstall_mirrors (fun _ _ h => h) (fun _ h => h.1) q

lemma onInstall_inLeaf (q : InstallProg α) :
    Prog.Mirrors InstallerState.install (InLeaf name weight step outer K) (onInstall q) q
      (fun _ => InLeaf name weight step outer K) (ExitAt (InLeaf name weight step outer K)) :=
  onInstall_mirrors (fun _ _ h => h) (fun _ h => h.ledger) q

lemma onInstall_step {q : InstallProg α} (hroom : step.substepsDone + weight ≤ step.substepsTotal)
    (hpos : 0 < weight) :
    Prog.Mirrors InstallerState.install (OnStack (step :: outer) K)
      (inStep name description 0 weight (onInstall q)) q
      (fun _ => OnStack (step.advance weight :: outer) K)
        (ExitAt (OnStack (step.advance weight :: outer) K)) :=
  inStep_mirrors hroom hpos (Prog.mirrors_consequence (onInstall_inLeaf q) (fun _ h => ⟨0, h⟩)
    (fun _ _ h => h)
    (fun _ _ h => h))

lemma advance_advance (a b : Nat) : (step.advance a).advance b = step.advance (a + b) := by
  unfold RaucProgressStep.advance
  simp only [Nat.add_assoc]
  rfl

end Frames

section Plans

variable (ctx : InstallContext) (args : RaucInstallArgs) (manifest : RaucManifest)
  (image : RaucImage)
  {K : List InstallerEvent → Prop} {step : RaucProgressStep} {outer : List RaucProgressStep}

/-- Some of the substeps of the step on top may be done. -/
def Advanced (step : RaucProgressStep) (outer : List RaucProgressStep) (most : Nat)
    (K : List InstallerEvent → Prop)
    (st : InstallerState) : Prop :=
  ∃ k ≤ most, OnStack (step.advance k :: outer) K st

lemma Advanced.ledger {most : Nat} {st : InstallerState} (h : Advanced step outer most K st) :
    Ledger st.calls st.progress st.copies := by
  obtain ⟨k, -, hstack⟩ := h
  exact hstack.1

section Slots

variable (slot : RaucSlot) (hookName : Option String) (handler : SlotHandler)

lemma copyImage_mirrors {weight : Nat} :
    Prog.Mirrors InstallerState.install (Leaf "copy_image" weight 0 step outer K)
      (copyImage ctx image slot hookName handler)
      (do startWrite image slot
          onSystem (onMedia (runSlotHandler ctx image slot hookName handler)))
      (fun _ => InLeaf "copy_image" weight step outer K)
        (ExitAt (InLeaf "copy_image" weight step outer K)) := by
  have hstart := onInstall_mirrors (P := Leaf "copy_image" weight 0 step outer K) (fun _ _ h => h)
    (fun _ h => h.1)
    (startWrite image slot)
  apply Prog.mirrors_bind (Prog.mirrors_consequence hstart (fun _ h => h) (fun _ _ h => h)
    (fun _ _ h => h.mono (fun _ hleaf => ⟨0, hleaf⟩)))
  intro _
  exact Prog.mirrors_hidden_bind reportCopy_hidden (onInstall_inLeaf _)

lemma writeSlot_eq : writeSlot ctx args manifest image slot hookName handler = (do
    match ← Prog.attempt (do
      startWrite image slot
      onSystem (onMedia (runSlotHandler ctx image slot hookName handler))) with
    | .error e =>
      let _ ← Prog.attempt (onSystem (finishStatus ctx args manifest image slot "failed"))
      Prog.fail (e.prefixed ("Failed updating slot " ++ slot.name ++ ": "))
    | .ok () => finishWrite ctx args manifest image slot) := by
  have hstart : ∀ w, ∃ a w', startWrite image slot w = (.value a, w') := fun w => ⟨(), _, rfl⟩
  rw [Prog.attempt_bind_eq hstart, Prog.bind_bind]
  unfold writeSlot startWrite
  rw [Prog.bind_bind]
  rfl

lemma writeSlot_mirrors (hroom : step.substepsDone + 9 ≤ step.substepsTotal) :
    Prog.Mirrors InstallerState.install (OnStack (step :: outer) K)
      (writeSlotWithProgress ctx args manifest image slot hookName handler)
      (writeSlot ctx args manifest image slot hookName handler)
        (fun _ => OnStack (step.advance 9 :: outer) K)
      (ExitAt (OnStack (step.advance 9 :: outer) K)) := by
  rw [writeSlot_eq]
  apply Prog.mirrors_bind (Prog.mirrors_attempt (inStep_mirrors hroom (by omega)
    (copyImage_mirrors ctx image slot hookName handler)))
  intro result
  cases result with
  | ok a => exact onInstall_onStack _
  | error e =>
    apply Prog.mirrors_bind (Prog.mirrors_attempt (onInstall_onStack _))
    intro status
    apply Prog.mirrors_exit
    intro st hst
    cases status with
    | ok a => exact hst
    | error e => exact hst

lemma handleSlotInstallPlan_eq : handleSlotInstallPlan ctx args manifest image slot hookName
    handler = (do
    let skips ← checkAndPrepare ctx image slot
    if skips then skipImage ctx args manifest image slot
    else writeSlot ctx args manifest image slot hookName handler) := by
  unfold handleSlotInstallPlan checkAndPrepare
  rw [Prog.bind_bind]
  congr 1
  funext slotState
  by_cases hskips : skipsUpdate image slot slotState = true
  · rw [if_pos hskips, if_pos hskips]
    rfl
  · rw [if_neg hskips, if_neg hskips, Prog.bind_bind]
    rfl

lemma handleSlotInstallPlan_mirrors (hroom : step.substepsDone + 10 ≤ step.substepsTotal) :
    Prog.Mirrors InstallerState.install (OnStack (step :: outer) K)
      (handleSlotInstallPlanWithProgress ctx args manifest image slot hookName handler)
      (handleSlotInstallPlan ctx args manifest image slot hookName handler)
      (fun _ => OnStack (step.advance 10 :: outer) K) (ExitAt (Advanced step outer 10 K)) := by
  have hafter : (step.advance 1).substepsDone + 9 ≤ (step.advance 1).substepsTotal := by
    unfold RaucProgressStep.advance
    dsimp only
    omega
  have hdone : (step.advance 1).advance 9 = step.advance 10 := advance_advance 1 9
  rw [handleSlotInstallPlan_eq]
  apply Prog.mirrors_bind (Prog.mirrors_consequence (onInstall_step (by omega) (by omega))
    (fun _ h => h) (fun _ _ h => h)
    (fun _ _ h => h.mono (fun _ hstack => ⟨1, by omega, hstack⟩)))
  intro skips
  cases skips with
  | true =>
    refine Prog.mirrors_consequence (onInstall_step hafter (by omega)) (fun _ h => h) ?_ ?_
    · rw [hdone]
      exact fun _ _ h => h
    · rw [hdone]
      exact fun _ _ h => h.mono (fun _ hstack => ⟨10, le_refl _, hstack⟩)
  | false =>
    refine Prog.mirrors_consequence (writeSlot_mirrors ctx args manifest image slot hookName
      handler hafter)
      (fun _ h => h) ?_ ?_
    · rw [hdone]
      exact fun _ _ h => h
    · rw [hdone]
      exact fun _ _ h => h.mono (fun _ hstack => ⟨10, le_refl _, hstack⟩)

end Slots

section Artifacts

variable (repo : RArtifactRepo) (name : String)

lemma onInstallRepo_bind {α β : Type} (p : RepoProg α) (f : α → RepoProg β) :
    onInstallRepo repo (p >>= f) = onInstallRepo repo p >>= fun a => onInstallRepo repo (f a) := by
  have hrepo : onRepo repo (p >>= f) = onRepo repo p >>= fun a => onRepo repo (f a) := by
    apply Prog.zoom_bind
    · intro rs st
      simp [ArtifactState.repo, ArtifactState.setRepo]
    · intro rs rs' st
      unfold ArtifactState.setRepo
      congr 1
      · funext path
        by_cases hpath : path = repo.path
        · rw [if_pos hpath, if_pos hpath]
        · rw [if_neg hpath, if_neg hpath]
          exact if_neg hpath
      · funext other
        by_cases hother : other = repo.name
        · rw [if_pos hother, if_pos hother]
        · rw [if_neg hother, if_neg hother]
          exact if_neg hother
  have hartifacts : onArtifacts (onRepo repo p >>= fun a => onRepo repo (f a)) =
      onArtifacts (onRepo repo p) >>= fun a => onArtifacts (onRepo repo (f a)) := by
    apply Prog.zoom_bind
    · intro artifacts st
      rfl
    · intro artifacts artifacts' st
      rfl
  unfold onInstallRepo
  rw [hrepo, hartifacts]
  apply Prog.zoom_bind
  · intro system st
    rfl
  · intro system system' st
    rfl

/-- What is left to do for an artifact after `check_repo`. -/
def installArtifact (missing : Bool) : RepoProg Unit := do
  if missing then rArtifactInstall repo image name (image.checksum.digest.getD "")
  commitArtifact repo image name

lemma handleArtifactInstallPlan_eq : handleArtifactInstallPlan repo image manifest name =
    checkRepo manifest repo image name >>= installArtifact image repo name := by
  unfold handleArtifactInstallPlan checkRepo
  rw [Prog.bind_bind]
  congr 1
  funext _
  rw [Prog.bind_bind]
  congr 1
  funext found
  cases found with
  | some artifact => rfl
  | none =>
    unfold installMissing
    dsimp only
    rw [Prog.bind_bind, Prog.bind_bind]
    rfl

lemma copyArtifactImage_mirrors {weight : Nat} (missing : Bool) :
    Prog.Mirrors InstallerState.install (Leaf "copy_image" weight 0 step outer K)
      (copyArtifactImage repo image name missing)
        (onInstallRepo repo (installArtifact image repo name missing))
      (fun _ => InLeaf "copy_image" weight step outer K)
        (ExitAt (InLeaf "copy_image" weight step outer K)) := by
  cases missing with
  | false =>
    have hcommit : Prog.Mirrors InstallerState.install (InLeaf "copy_image" weight step outer K)
        (onInstall (onInstallRepo repo (commitArtifact repo image name)))
        (onInstallRepo repo (commitArtifact repo image name))
          (fun _ => InLeaf "copy_image" weight step outer K)
        (ExitAt (InLeaf "copy_image" weight step outer K)) := onInstall_inLeaf _
    exact Prog.mirrors_consequence hcommit (fun _ h => ⟨0, h⟩) (fun _ _ h => h) (fun _ _ h => h)
  | true =>
    have hsplit : onInstallRepo repo (installArtifact image repo name true) =
        onInstallRepo repo (rArtifactInstall repo image name (image.checksum.digest.getD "")) >>=
          fun _ =>
          onInstallRepo repo (commitArtifact repo image name) := onInstallRepo_bind repo _ _
    rw [hsplit]
    apply Prog.mirrors_hidden_bind reportCopy_hidden
    exact Prog.mirrors_bind (onInstall_inLeaf _) (fun _ => onInstall_inLeaf _)

lemma handleArtifactInstallPlan_mirrors (hroom : step.substepsDone + 10 ≤ step.substepsTotal) :
    Prog.Mirrors InstallerState.install (OnStack (step :: outer) K)
      (handleArtifactInstallPlanWithProgress manifest repo image name)
      (onInstallRepo repo (handleArtifactInstallPlan repo image manifest name))
      (fun _ => OnStack (step.advance 10 :: outer) K) (ExitAt (Advanced step outer 10 K)) := by
  have hafter : (step.advance 1).substepsDone + 9 ≤ (step.advance 1).substepsTotal := by
    unfold RaucProgressStep.advance
    dsimp only
    omega
  have hdone : (step.advance 1).advance 9 = step.advance 10 := advance_advance 1 9
  rw [handleArtifactInstallPlan_eq, onInstallRepo_bind]
  apply Prog.mirrors_bind (Prog.mirrors_consequence (onInstall_step (by omega) (by omega))
    (fun _ h => h) (fun _ _ h => h)
    (fun _ _ h => h.mono (fun _ hstack => ⟨1, by omega, hstack⟩)))
  intro missing
  refine Prog.mirrors_consequence (inStep_mirrors hafter (by omega)
    (copyArtifactImage_mirrors image repo name missing))
    (fun _ h => h) ?_ ?_
  · rw [hdone]
    exact fun _ _ h => h
  · rw [hdone]
    exact fun _ _ h => h.mono (fun _ hstack => ⟨10, le_refl _, hstack⟩)

end Artifacts

/-- A plan that the loop does something for. -/
def HasTarget (plan : RImageInstallPlan) : Prop :=
  (plan.targetSlot.isSome ∧ plan.slotHandler.isSome) ∨
    (plan.targetSlot = none ∧ plan.targetRepo.isSome)

lemma handlePlan_mirrors {plan : RImageInstallPlan} (hplan : HasTarget plan)
    (hookName : Option String)
    (hroom : step.substepsDone + 10 ≤ step.substepsTotal) :
    Prog.Mirrors InstallerState.install (OnStack (step :: outer) K)
      (handlePlanWithProgress ctx args manifest hookName plan)
        (handlePlan ctx args manifest hookName plan)
      (fun _ => OnStack (step.advance 10 :: outer) K) (ExitAt (Advanced step outer 10 K)) := by
  obtain ⟨image, targetSlot, slotHandler, targetRepo⟩ := plan
  rcases hplan with ⟨hslot, hhandler⟩ | ⟨hslot, hrepo⟩
  · obtain ⟨slot, rfl⟩ := Option.isSome_iff_exists.mp hslot
    obtain ⟨handler, rfl⟩ := Option.isSome_iff_exists.mp hhandler
    exact handleSlotInstallPlan_mirrors ctx args manifest image slot hookName handler hroom
  · obtain rfl : targetSlot = none := hslot
    obtain ⟨repo, rfl⟩ := Option.isSome_iff_exists.mp hrepo
    exact handleArtifactInstallPlan_mirrors manifest image repo _ hroom

lemma installPlan_mirrors {plan : RImageInstallPlan} (hplan : HasTarget plan)
    (hookName : Option String)
    (hroom : step.substepsDone + 10 ≤ step.substepsTotal) :
    Prog.Mirrors InstallerState.install (OnStack (step :: outer) K)
      (installPlanWithProgress ctx args manifest hookName plan)
        (installPlan ctx args manifest hookName plan)
      (fun _ => OnStack (step.advance 10 :: outer) K) (ExitAt (Advanced step outer 10 K)) := by
  apply Prog.mirrors_bind (handlePlan_mirrors ctx args manifest hplan hookName hroom)
  intro _
  exact Prog.mirrors_consequence (onInstall_onStack _) (fun _ h => h) (fun _ _ h => h)
    (fun _ _ h => h.mono (fun _ hstack => ⟨10, le_refl _, hstack⟩))

section Handler

variable {config : RaucConfig} {group : Table String RaucSlot} {plans : List RImageInstallPlan}

lemma PlansMade.hasTarget (h : PlansMade config group manifest plans) :
    ∀ plan ∈ plans, HasTarget plan := by
  obtain ⟨classes, forSlots, forArtifacts, -, hslots, hartifacts, rfl⟩ := h
  intro plan hplan
  rcases List.mem_append.mp hplan with hplan | hplan
  · obtain ⟨slotclass, -, hmade⟩ := (slotPlans_ok hslots).1 plan hplan
    obtain ⟨_, _, _, -, -, -, -, rfl⟩ := slotPlan_ok hmade
    exact .inl ⟨rfl, rfl⟩
  · obtain ⟨_, -, _, -, -, rfl⟩ := artifactPlans_ok hartifacts plan hplan
    exact .inr ⟨rfl, rfl⟩

lemma HasTarget.absolute {plan : RImageInstallPlan} (h : HasTarget plan) (bundledir : String) :
    HasTarget (absolutePlan bundledir plan) := h

/-- The loop over the plans, with a weight of ten for each of them. -/
lemma eachPlan_mirrors (hplans : ∀ plan ∈ plans, HasTarget plan) (hookName : Option String)
    (hroom : step.substepsDone + plans.length * 10 ≤ step.substepsTotal) :
    Prog.Mirrors InstallerState.install (OnStack (step.advance 0 :: outer) K)
      (Prog.each (installPlanWithProgress ctx args manifest hookName) plans)
      (Prog.each (installPlan ctx args manifest hookName) plans)
      (fun _ => OnStack (step.advance (plans.length * 10) :: outer) K)
      (ExitAt (Advanced step outer (plans.length * 10) K)) := by
  have hloop : Prog.Mirrors InstallerState.install
      (OnStack (step.advance ((plans.length - plans.length) * 10) :: outer) K)
      (Prog.each (installPlanWithProgress ctx args manifest hookName) plans)
      (Prog.each (installPlan ctx args manifest hookName) plans)
      (fun _ => OnStack (step.advance ((plans.length - 0) * 10) :: outer) K)
      (ExitAt (Advanced step outer (plans.length * 10) K)) := by
    apply Prog.mirrors_each (fun rest => OnStack
      (step.advance ((plans.length - rest.length) * 10) :: outer) K)
    intro plan rest hsuffix
    have hlen : rest.length + 1 ≤ plans.length := by simpa using hsuffix.length_le
    have hnext : (plans.length - (plan :: rest).length) * 10 + 10 =
        (plans.length - rest.length) * 10 := by
      simp only [List.length_cons]
      omega
    have hfree : (step.advance ((plans.length - (plan :: rest).length) * 10)).substepsDone + 10 ≤
        (step.advance ((plans.length - (plan :: rest).length) * 10)).substepsTotal := by
      unfold RaucProgressStep.advance
      dsimp only
      omega
    have htarget := hplans plan (hsuffix.subset (by simp))
    refine Prog.mirrors_consequence (installPlan_mirrors ctx args manifest htarget hookName hfree)
      (fun _ h => h) ?_ ?_
    · rw [advance_advance, hnext]
      exact fun _ _ h => h
    · intro _ _ h
      apply h.mono
      rintro st ⟨k, hk, hstack⟩
      rw [advance_advance] at hstack
      exact ⟨_, by omega, hstack⟩
  rw [Nat.sub_self, Nat.zero_mul] at hloop
  exact hloop

/-- The step around the plans is still open after a failure of the pruning. -/
def LeftOpen (step : RaucProgressStep) (outer : List RaucProgressStep) (st : InstallerState) :
    Prop :=
  Ledger st.calls st.progress st.copies ∧ .pruneFailed ∈ st.events ∧
    ∃ top, st.progress.progress = top :: step :: outer ∧ top.name = "update_slots"

lemma substepOf_advance_zero (name description : String) (substeps weight : Nat) :
    (substepOf step name description substeps weight).advance 0 =
      substepOf step name description substeps weight := by
  unfold RaucProgressStep.advance RaucProgressStep.share substepOf
  simp

lemma updateSlots_mirrors (hplans : ∀ plan ∈ plans, HasTarget plan) (hookName : Option String)
    (hroom : step.substepsDone + 6 ≤ step.substepsTotal) :
    Prog.Mirrors InstallerState.install (OnStack (step :: outer) K)
      (updateSlots ctx args manifest hookName plans)
      (do Prog.each (installPlan ctx args manifest hookName) plans
          onSystem (onArtifacts (rArtifactsPrune ctx.repos)))
      (fun _ => OnStack (step.advance 6 :: outer) K)
      (ExitAt (fun st => OnStack (step.advance 6 :: outer) K st ∨ LeftOpen step outer st)) := by
  have hzero := @substepOf_advance_zero step "update_slots" "Updating slots" (plans.length * 10) 6
  have hloop := @eachPlan_mirrors ctx args manifest K
    (substepOf step "update_slots" "Updating slots" (plans.length * 10) 6) (step :: outer) plans
      hplans hookName
    (by simp [substepOf])
  rw [hzero] at hloop
  apply Prog.mirrors_hidden_bind (begin_hidden hroom (by omega))
  refine Prog.mirrors_attempt_bind hloop ?_ ?_ (fun _ _ h => h) (fun _ h => h)
  · intro _
    refine Prog.mirrors_attempt_end (onInstall_onStack _) ?_ ?_ (fun _ _ h => h) (fun _ h => h)
    · intro _
      rw [← Prog.bind_pure_eq (makeCall _)]
      refine Prog.mirrors_hidden_bind (a := ()) (M := OnStack (step.advance 6 :: outer) K) ?_
        (Prog.mirrors_pure (fun _ h => h))
      rintro w ⟨hledger, hstack, hK⟩
      exact end_hidden w ⟨hledger, hK, _, _, hstack, rfl, rfl, fun _ => Nat.zero_add _, rfl⟩
    · intro e
      refine Prog.mirrors_hidden_bind (a := ()) (M := LeftOpen step outer) ?_
        (Prog.mirrors_exit (fun _ h => .inr h))
      rintro w ⟨hledger, hstack, -⟩
      exact ⟨_, rfl, rfl, hledger, by simp, _, hstack, rfl⟩
  · intro e
    refine Prog.mirrors_hidden_bind (a := ()) (M := OnStack (step.advance 6 :: outer) K) ?_
      (Prog.mirrors_exit (fun _ h => .inl h))
    rintro w ⟨k, -, hledger, hstack, hK⟩
    exact end_hidden w ⟨hledger, hK, _, _, hstack, rfl, rfl, by simp, rfl⟩

lemma prepareInstall_targets (bundledir : String) :
    Returns (prepareInstall ctx manifest bundledir group) (fun r => ∀ plan ∈ r.1,
      HasTarget plan) := by
  apply returns_bind (Q := PlansMade ctx.config group manifest)
  · apply Prog.triple_zoom
    intro st _
    exact Prog.triple_consequence (rInstallMakePlans_returns ctx manifest group) (fun _ _ =>
      trivial) (fun _ _ h => h)
      (fun _ _ _ => trivial)
  · intro plans hmade
    apply returns_bind (returns_any _)
    intro bootMarkSlot _
    apply returns_bind (returns_any _)
    intro _ _
    apply returns_bind (returns_any _)
    intro _ _
    apply returns_pure
    intro plan hplan
    obtain ⟨original, horiginal, rfl⟩ := List.mem_map.mp hplan
    exact (hmade.hasTarget manifest original horiginal).absolute bundledir

lemma launchAndWaitDefaultHandler_eq (bundledir : String) :
    launchAndWaitDefaultHandler ctx args bundledir manifest group = (do
      let r ← prepareInstall ctx manifest bundledir group
      (do Prog.each
            (installPlan ctx args manifest (manifest.hookName.map (buildFilename bundledir))) r.1
          onSystem (onArtifacts (rArtifactsPrune ctx.repos)))
      activateTarget ctx r.2) := by
  unfold launchAndWaitDefaultHandler prepareInstall
  rw [Prog.bind_bind]
  congr 1
  funext plans
  rw [Prog.bind_bind]
  congr 1
  funext bootMarkSlot
  dsimp only
  rw [Prog.bind_bind]
  congr 1
  funext _
  rw [Prog.bind_bind]
  congr 1
  funext _
  exact (Prog.bind_bind _ _ _).symm

/-- The default handler with its progress steps does what it does without them, and leaves its step
open at most after a failure of the last pruning. -/
lemma launchAndWaitDefaultHandler_mirrors (bundledir : String)
    (hroom : step.substepsDone + 6 ≤ step.substepsTotal) :
    Prog.Mirrors InstallerState.install (OnStack (step :: outer) (fun _ => True))
      (launchAndWaitDefaultHandlerWithProgress ctx args manifest bundledir group)
      (launchAndWaitDefaultHandler ctx args bundledir manifest group)
      (fun _ => OnStack (step.advance 6 :: outer) (fun _ => True))
      (ExitAt (fun st => OnStack (step :: outer) (fun _ => True) st ∨
        OnStack (step.advance 6 :: outer) (fun _ => True) st ∨
        LeftOpen step outer st)) := by
  rw [launchAndWaitDefaultHandler_eq]
  refine Prog.mirrors_hidden_bind (a := ()) (M := OnStack (step :: outer) (fun _ => True)) ?_ ?_
  · exact fun w hw => ⟨_, rfl, rfl, hw⟩
  refine Prog.mirrors_bind (Prog.mirrors_value (Prog.mirrors_consequence
    (onInstall_onStack (K := fun _ => True) (prepareInstall ctx manifest bundledir group))
      (fun _ h => h) (fun _ _ h => h)
    (fun _ _ h => h.mono (fun _ hstack => .inl hstack)))
      (prepareInstall_targets ctx manifest bundledir)) ?_
  intro r
  apply Prog.mirrors_fact
  intro hplans
  refine Prog.mirrors_bind (Prog.mirrors_consequence
    (updateSlots_mirrors ctx args manifest hplans (manifest.hookName.map (buildFilename bundledir))
      hroom) (fun _ h => h)
    (fun _ _ h => h) (fun _ _ h => h.mono (fun _ => .inr))) ?_
  intro _
  exact Prog.mirrors_consequence (onInstall_onStack (activateTarget ctx r.2)) (fun _ h => h)
    (fun _ _ h => h)
    (fun _ _ h => h.mono (fun _ hstack => .inr (.inl hstack)))

end Handler

end Plans

end RaucUpdate
