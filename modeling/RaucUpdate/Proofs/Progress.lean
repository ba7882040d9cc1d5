import Mathlib.Data.List.Chain
import Mathlib.Tactic.GCongr
import Mathlib.Tactic.FieldSimp
import Mathlib.Tactic.Linarith
import RaucUpdate.Model.Progress

/-!
# Progress values

Every step below the innermost one has done what its finished substeps and the explicit percentage
of the current one account for. The reported sum then never decreases during an operation, and it
reaches 100 only with its end.
-/

namespace RaucUpdate

section Shares

/-- What substeps of a joint weight are worth. -/
def RaucProgressStep.share (step : RaucProgressStep) (weight : Nat) : ℚ :=
  step.percentTotal * weight / step.substepsTotal

lemma share_add (step : RaucProgressStep) (a b : Nat) :
    step.share (a + b) = step.share a + step.share b := by
  unfold RaucProgressStep.share
  push_cast
  ring

lemma share_full {step : RaucProgressStep} (h : 0 < step.substepsTotal) :
    step.share step.substepsTotal = step.percentTotal := by
  have hne : (step.substepsTotal : ℚ) ≠ 0 := by exact_mod_cast h.ne'
  unfold RaucProgressStep.share
  field_simp

lemma share_nonneg {step : RaucProgressStep} (h : 0 ≤ step.percentTotal) (a : Nat) :
    0 ≤ step.share a := by
  unfold RaucProgressStep.share
  positivity

lemma share_le_total {step : RaucProgressStep} (h : 0 ≤ step.percentTotal)
    (hpos : 0 < step.substepsTotal) {a : Nat}
    (ha : a ≤ step.substepsTotal) : step.share a ≤ step.percentTotal := by
  calc step.share a ≤ step.share step.substepsTotal := by
        unfold RaucProgressStep.share
        gcongr
    _ = step.percentTotal := share_full hpos

/-- Nothing but all substeps are worth the whole step. -/
lemma eq_of_share_eq_total {step : RaucProgressStep} (h : 0 < step.percentTotal)
    (hpos : 0 < step.substepsTotal)
    {a : Nat} (ha : step.share a = step.percentTotal) : a = step.substepsTotal := by
  have hne : (step.substepsTotal : ℚ) ≠ 0 := by exact_mod_cast hpos.ne'
  unfold RaucProgressStep.share at ha
  rw [div_eq_iff hne] at ha
  have hcast : (a : ℚ) = step.substepsTotal := mul_left_cancel₀ h.ne' ha
  exact_mod_cast hcast

end Shares

section Stacks

/-- The steps around a step: each of them has a substep under way and has done its share of the
finished ones, and the part of the present one that was set explicitly. -/
def Accounted : RaucProgressStep → List RaucProgressStep → Prop
  | step, [] => step.percentTotal = 100 ∧ step.lastExplicitPercent = 0
  | step, parent :: outer =>
    step.percentTotal = parent.share step.weight ∧ 0 < parent.substepsTotal ∧
    parent.substepsDone + step.weight ≤ parent.substepsTotal ∧
    parent.percentDone = parent.share parent.substepsDone + step.percentTotal *
      (step.lastExplicitPercent / 100) ∧
    parent.lastExplicitPercent = 0 ∧ Accounted parent outer

/-- The innermost step. -/
structure RaucProgressStep.Innermost (step : RaucProgressStep) : Prop where
  substeps : step.substepsDone ≤ step.substepsTotal
  least : 0 ≤ step.lastExplicitPercent
  most : step.lastExplicitPercent ≤ 100
  /-- A step with substeps sums them up. -/
  sums : 0 < step.substepsTotal → step.lastExplicitPercent = 0 ∧ step.percentDone =
    step.share step.substepsDone

lemma Accounted.total_bounds {step : RaucProgressStep} {outer : List RaucProgressStep}
    (h : Accounted step outer) :
    0 ≤ step.percentTotal ∧ step.percentTotal ≤ 100 := by
  induction outer generalizing step with
  | nil =>
    rw [h.1]
    norm_num
  | cons parent outer ih =>
    obtain ⟨htotal, hpos, hroom, -, -, hrest⟩ := h
    obtain ⟨hnonneg, hle⟩ := ih hrest
    rw [htotal]
    exact ⟨share_nonneg hnonneg _, (share_le_total hnonneg hpos (by omega)).trans hle⟩

/-- The steps around a step leave room for what the step itself has not passed on yet. -/
lemma Accounted.percentSum_le {step : RaucProgressStep} {outer : List RaucProgressStep}
    (h : Accounted step outer) :
    percentSum outer ≤ 100 - step.percentTotal * (1 - step.lastExplicitPercent / 100) := by
  induction outer generalizing step with
  | nil =>
    rw [h.1, h.2]
    norm_num [percentSum]
  | cons parent outer ih =>
    obtain ⟨htotal, hpos, hroom, hdone, hplain, hrest⟩ := h
    have hsum := ih hrest
    have hshare : parent.share parent.substepsDone + step.percentTotal ≤ parent.percentTotal := by
      rw [htotal, ← share_add]
      exact share_le_total hrest.total_bounds.1 hpos hroom
    rw [hplain] at hsum
    calc
      percentSum (parent :: outer) = parent.percentDone + percentSum outer := by simp [percentSum]
      _ ≤ 100 - step.percentTotal * (1 - step.lastExplicitPercent / 100) := by
        rw [hdone]
        norm_num at hsum
        linarith

lemma Accounted.percentSum_le_hundred {step : RaucProgressStep} {outer : List RaucProgressStep}
    (h : Accounted step outer)
    (hmost : step.lastExplicitPercent ≤ 100) : percentSum outer ≤ 100 := by
  have hsum := h.percentSum_le
  have hmost : (step.lastExplicitPercent : ℚ) ≤ 100 := by exact_mod_cast hmost
  have hrest :=
    mul_nonneg h.total_bounds.1 (show (0 : ℚ) ≤ 1 - step.lastExplicitPercent / 100 by linarith)
  linarith

lemma Accounted.percentSum_nonneg {step : RaucProgressStep} {outer : List RaucProgressStep}
    (h : Accounted step outer)
    (hleast : 0 ≤ step.lastExplicitPercent) : 0 ≤ percentSum outer := by
  induction outer generalizing step with
  | nil => simp [percentSum]
  | cons parent outer ih =>
    have htotal := h.total_bounds.1
    obtain ⟨-, -, -, hdone, hplain, hrest⟩ := h
    have hsum := ih hrest hplain.ge
    have hshare := share_nonneg hrest.total_bounds.1 parent.substepsDone
    have hexplicit : (0 : ℚ) ≤ step.lastExplicitPercent := by exact_mod_cast hleast
    have hpart : 0 ≤ step.percentTotal * (step.lastExplicitPercent / 100) := by positivity
    calc (0 : ℚ) ≤ parent.percentDone + percentSum outer := by
          rw [hdone]
          linarith
      _ = percentSum (parent :: outer) := by simp [percentSum]

end Stacks

section Reports

lemma truncate_eq_floor {q : ℚ} (h : 0 ≤ q) : truncate q = ⌊q⌋ := by
  unfold truncate
  rw [Rat.floor_def', Int.tdiv_eq_ediv_of_nonneg (Rat.num_nonneg.mpr h)]

lemma truncate_mono {a b : ℚ} (ha : 0 ≤ a) (hab : a ≤ b) : truncate a ≤ truncate b := by
  rw [truncate_eq_floor ha, truncate_eq_floor (ha.trans hab)]
  exact Int.floor_le_floor hab

lemma truncate_le {q : ℚ} (h : 0 ≤ q) : (truncate q : ℚ) ≤ q := by
  rw [truncate_eq_floor h]
  exact Int.floor_le q

lemma truncate_nonneg {q : ℚ} (h : 0 ≤ q) : 0 ≤ truncate q := by
  rw [truncate_eq_floor h]
  exact Int.floor_nonneg.mpr h

lemma le_truncate {n : Int} {q : ℚ} (hq : 0 ≤ q) (h : (n : ℚ) ≤ q) : n ≤ truncate q := by
  rw [truncate_eq_floor hq]
  exact Int.le_floor.mpr h

lemma truncate_le_hundred {q : ℚ} (h : 0 ≤ q) (hq : q ≤ 100) : truncate q ≤ 100 := by
  have hle := (truncate_le h).trans hq
  exact_mod_cast hle

/-- The report of a step with its description. -/
def reportOf (step : RaucProgressStep) (outer : List RaucProgressStep) (message : String) :
    ProgressReport :=
  ⟨truncate (shownPercentage step outer), message, outer.length + 1⟩

lemma shownPercentage_le {step : RaucProgressStep} {outer : List RaucProgressStep} :
    shownPercentage step outer ≤ donePercentage step outer := by
  unfold shownPercentage
  split_ifs with h
  · exact h.2.le
  · exact le_refl _

lemma shownPercentage_nonneg {step : RaucProgressStep} {outer : List RaucProgressStep}
    (h : 0 ≤ donePercentage step outer) : 0 ≤ shownPercentage step outer := by
  unfold shownPercentage
  split_ifs
  · norm_num
  · exact h

/-- A report of less than a complete step stays below 100. -/
lemma shownPercentage_le_99 {step : RaucProgressStep} {outer : List RaucProgressStep}
    (h : step.percentDone < 100) :
    shownPercentage step outer ≤ 99 := by
  unfold shownPercentage
  split_ifs with hclamp
  · exact le_refl _
  · exact not_lt.mp (fun hlt => hclamp ⟨h, hlt⟩)

lemma le_shownPercentage {step : RaucProgressStep} {outer : List RaucProgressStep} {q : ℚ}
    (h : q ≤ donePercentage step outer) (hclamp : q ≤ 99 ∨ 100 ≤ step.percentDone) :
      q ≤ shownPercentage step outer := by
  unfold shownPercentage
  split_ifs with hcut
  · exact hclamp.resolve_right (not_le.mpr hcut.1)
  · exact h

variable {step : RaucProgressStep} {outer : List RaucProgressStep} {reports : List ProgressReport}

lemma truncate_shown_le (hnonneg : 0 ≤ donePercentage step outer)
    (hle : donePercentage step outer ≤ 100) :
    ¬ 100 < truncate (shownPercentage step outer) :=
  not_lt.mpr (truncate_le_hundred (shownPercentage_nonneg hnonneg) (shownPercentage_le.trans hle))

lemma rContextSendProgress_none (hnonneg : 0 ≤ donePercentage step outer)
    (hle : donePercentage step outer ≤ 100) :
    rContextSendProgress none ⟨step :: outer, reports⟩ =
      .ok ⟨step :: outer, reports ++ [reportOf step outer step.description]⟩ := by
  unfold rContextSendProgress
  dsimp only
  rw [if_neg (truncate_shown_le hnonneg hle)]
  rfl

lemma popStep_eq (hnonneg : 0 ≤ donePercentage step outer) (hle : donePercentage step outer ≤ 100)
    (success : Bool) :
    popStep success ⟨step :: outer, reports⟩ =
      .ok ⟨outer, reports ++ [reportOf step outer (finishedText success step.description)]⟩ := by
  unfold popStep rContextSendProgress
  dsimp only
  rw [if_neg (truncate_shown_le hnonneg hle)]
  rfl

end Reports

section Calls

variable {step parent : RaucProgressStep} {outer : List RaucProgressStep}
  {reports : List ProgressReport}

/-- A step as it begins inside another one. -/
def substepOf (parent : RaucProgressStep) (name description : String) (substeps weight : Nat) :
    RaucProgressStep :=
  { name := name, description := description, weight := weight, substepsTotal := substeps,
    percentTotal := weight * parent.percentTotal / parent.substepsTotal }

lemma substepOf_total (parent : RaucProgressStep) (name description : String)
    (substeps weight : Nat) :
    (substepOf parent name description substeps weight).percentTotal = parent.share weight := by
  unfold substepOf RaucProgressStep.share
  rw [mul_comm]

/-- A step as it begins on its own. -/
def rootStep (name description : String) (substeps weight : Nat) : RaucProgressStep :=
  { name := name, description := description, weight := weight, substepsTotal := substeps,
    percentTotal := 100 }

lemma innermost_new (h : step.substepsDone = 0) (hexplicit : step.lastExplicitPercent = 0)
    (hdone : step.percentDone = 0) :
    step.Innermost := by
  refine ⟨by omega, by omega, by omega, ?_⟩
  intro hpos
  rw [hdone, h]
  exact ⟨hexplicit, by simp [RaucProgressStep.share]⟩

lemma Accounted.begin (h : Accounted parent outer) (hparent : parent.Innermost) {weight : Nat}
    (hpos : 0 < parent.substepsTotal) (hroom : parent.substepsDone + weight ≤ parent.substepsTotal)
    (name description : String) (substeps : Nat) :
    Accounted (substepOf parent name description substeps weight) (parent :: outer) := by
  obtain ⟨hplain, hdone⟩ := hparent.sums hpos
  refine ⟨substepOf_total parent name description substeps weight, hpos, hroom, ?_, hplain, h⟩
  rw [hdone]
  simp [substepOf]

lemma rContextBeginStepWeighted_root (name description : String) (substeps weight : Nat) :
    rContextBeginStepWeighted name description substeps weight ⟨[], reports⟩ =
      .ok ⟨[rootStep name description substeps weight], reports ++ [⟨0, description, 1⟩]⟩ := by
  have hdone : donePercentage (rootStep name description substeps weight) [] = 0 := rfl
  have hreport : reportOf (rootStep name description substeps weight) [] description =
      ⟨0, description, 1⟩ := by
    unfold reportOf shownPercentage
    rw [hdone]
    norm_num [truncate]
  have hsend := @rContextSendProgress_none (rootStep name description substeps weight) [] reports
    (by rw [hdone])
    (by rw [hdone]; norm_num)
  exact hsend.trans (by rw [← hreport]; rfl)

lemma rContextBeginStepWeighted_inner (h : Accounted parent outer) (hparent : parent.Innermost)
    {weight : Nat}
    (hroom : parent.substepsDone + weight ≤ parent.substepsTotal)
    (hfree : parent.substepsDone < parent.substepsTotal)
    (name description : String) (substeps : Nat) :
    rContextBeginStepWeighted name description substeps weight ⟨parent :: outer, reports⟩ =
      .ok ⟨substepOf parent name description substeps weight :: parent :: outer, reports ++
        [reportOf (substepOf parent name description substeps weight) (parent :: outer)
          description]⟩ := by
  have hacc := h.begin hparent (by omega) hroom name description substeps
  have htotal := substepOf_total parent name description substeps weight
  have hsmall : parent.share weight ≤ parent.percentTotal :=
    share_le_total h.total_bounds.1 (by omega) (by omega)
  have hlow := hacc.total_bounds.1
  unfold rContextBeginStepWeighted
  dsimp only
  rw [if_neg (by omega), if_neg (by omega), if_neg, if_neg]
  · exact rContextSendProgress_none (hacc.percentSum_nonneg (le_refl _))
      (hacc.percentSum_le_hundred (by simp [substepOf]))
  · exact not_lt.mpr (truncate_le_hundred hlow hacc.total_bounds.2)
  · exact not_lt.mpr (truncate_mono hlow (htotal.le.trans hsmall))

lemma rContextBeginStepWeighted_full (hfull : ¬ parent.substepsDone < parent.substepsTotal)
    (hbound : parent.substepsDone ≤ parent.substepsTotal) (name description : String)
    (substeps weight : Nat) :
    ∃ e, rContextBeginStepWeighted name description substeps weight ⟨parent :: outer, reports⟩ =
      .error e := by
  unfold rContextBeginStepWeighted
  dsimp only
  by_cases hnone : parent.substepsTotal = 0
  · exact ⟨_, if_pos hnone⟩
  · rw [if_neg hnone, if_pos (by omega)]
    exact ⟨_, rfl⟩

/-- A step after substeps of a joint weight have ended in it. -/
def RaucProgressStep.advance (step : RaucProgressStep) (weight : Nat) : RaucProgressStep :=
  { step with substepsDone := step.substepsDone + weight,
              percentDone := step.share (step.substepsDone + weight) }

lemma rContextSetStepPercentage_same {percent : Int} (h : percent - step.lastExplicitPercent < 1) :
    rContextSetStepPercentage step.name percent ⟨step :: parent :: outer, reports⟩ =
      .ok ⟨step :: parent :: outer, reports⟩ := by
  unfold rContextSetStepPercentage
  dsimp only
  rw [if_neg (not_not.mpr rfl), if_pos h]

/-- A step and its parent after an explicit percentage above the last one. -/
def RaucProgressStep.set (step : RaucProgressStep) (percent : Int) : RaucProgressStep :=
  { step with
    percentDone := step.percentTotal * ((percent - step.lastExplicitPercent : Int) / 100)
    lastExplicitPercent := percent }

def RaucProgressStep.raise (parent : RaucProgressStep) (amount : ℚ) : RaucProgressStep :=
  { parent with percentDone := parent.percentDone + amount }

lemma rContextSetStepPercentage_more {percent : Int}
    (h : ¬ percent - step.lastExplicitPercent < 1) :
    rContextSetStepPercentage step.name percent ⟨step :: parent :: outer, reports⟩ =
      if percent = 100 then
        .ok ⟨step.set percent :: parent.raise (step.set percent).percentDone :: outer, reports⟩
      else rContextSendProgress none
        ⟨step.set percent :: parent.raise (step.set percent).percentDone :: outer, reports⟩ := by
  unfold rContextSetStepPercentage
  dsimp only
  rw [if_neg (not_not.mpr rfl), if_neg h]
  rfl

lemma Accounted.set (h : Accounted step (parent :: outer)) (percent : Int) :
    Accounted (step.set percent) (parent.raise (step.set percent).percentDone :: outer) := by
  obtain ⟨htotal, hpos, hroom, hdone, hplain, hrest⟩ := h
  refine ⟨htotal, hpos, hroom, ?_, hplain, ?_⟩
  · simp only [RaucProgressStep.raise, RaucProgressStep.set, hdone, RaucProgressStep.share]
    push_cast
    ring
  · cases outer with
    | nil => exact hrest
    | cons grandparent outer => exact hrest

/-- A finished step has passed on exactly its own percentage, in one piece or in several. -/
lemma passToParent_eq (h : Accounted step (parent :: outer)) (hleast : 0 ≤ step.lastExplicitPercent)
    (hmost : step.lastExplicitPercent ≤ 100) (hfull : step.percentDone = step.percentTotal)
    (st : ProgressState) :
    ∃ last : RaucProgressStep, 0 ≤ last.percentDone ∧ last.percentDone ≤ step.percentTotal ∧
      (step.lastExplicitPercent = 0 → last.percentDone = step.percentTotal) ∧
      passToParent step parent outer st = .ok ⟨last :: parent.advance step.weight :: outer,
        st.reports⟩ := by
  have hnonneg := h.total_bounds.1
  obtain ⟨htotal, -, -, hdone, -, -⟩ := h
  have hshare : parent.share (parent.substepsDone + step.weight) =
      parent.share parent.substepsDone + step.percentTotal := by rw [share_add, htotal]
  unfold passToParent
  dsimp only
  by_cases hzero : step.lastExplicitPercent = 0
  · rw [if_neg (not_not.mpr hzero)]
    refine ⟨step, hfull ▸ hnonneg, hfull.le, fun _ => hfull, ?_⟩
    unfold RaucProgressStep.advance
    rw [hshare, hdone, hfull, hzero]
    norm_num
  · rw [if_pos hzero]
    by_cases hall : step.lastExplicitPercent = 100
    · rw [rContextSetStepPercentage_same (by omega)]
      refine ⟨step, hfull ▸ hnonneg, hfull.le, fun _ => hfull, ?_⟩
      unfold RaucProgressStep.advance
      rw [hshare, hdone, hall]
      norm_num
    · rw [rContextSetStepPercentage_more (by omega), if_pos rfl]
      have hfraction : (0 : ℚ) ≤ ((100 - step.lastExplicitPercent : Int) : ℚ) / 100 ∧
          ((100 - step.lastExplicitPercent : Int) : ℚ) / 100 ≤ 1 := by
        have hlow : (0 : ℚ) ≤ step.lastExplicitPercent := by exact_mod_cast hleast
        have hhigh : (step.lastExplicitPercent : ℚ) ≤ 100 := by exact_mod_cast hmost
        push_cast
        constructor <;> linarith
      refine ⟨step.set 100, mul_nonneg hnonneg hfraction.1,
        mul_le_of_le_one_right hnonneg hfraction.2,
        fun h => absurd h hzero, ?_⟩
      simp only [RaucProgressStep.advance, RaucProgressStep.raise, hshare, hdone,
        RaucProgressStep.set]
      push_cast
      ring_nf

lemma Accounted.advance (h : Accounted step (parent :: outer)) :
    Accounted (parent.advance step.weight) outer := by
  obtain ⟨-, -, -, -, hplain, hrest⟩ := h
  cases outer with
  | nil => exact hrest
  | cons grandparent outer => exact hrest

lemma Accounted.innermost_advance (h : Accounted step (parent :: outer)) :
    (parent.advance step.weight).Innermost := by
  obtain ⟨-, -, hroom, -, hplain, -⟩ := h
  exact ⟨hroom, hplain.ge, hplain.le.trans (by norm_num), fun _ => ⟨hplain, rfl⟩⟩

lemma percentSum_cons (step : RaucProgressStep) (outer : List RaucProgressStep) :
    percentSum (step :: outer) = step.percentDone + percentSum outer := by simp [percentSum]

lemma Accounted.advance_sum (h : Accounted step (parent :: outer)) :
    0 ≤ percentSum (parent.advance step.weight :: outer) ∧
      percentSum (parent.advance step.weight :: outer) ≤ 100 := by
  obtain ⟨-, hpos, hroom, -, hplain, hrest⟩ := h
  have hnonneg := hrest.total_bounds.1
  have hlow := hrest.percentSum_nonneg hplain.ge
  have hhigh := hrest.percentSum_le
  have hshare : parent.share (parent.substepsDone + step.weight) ≤ parent.percentTotal :=
    share_le_total hnonneg hpos hroom
  have hpart := share_nonneg hnonneg (parent.substepsDone + step.weight)
  rw [hplain] at hhigh
  norm_num at hhigh
  rw [percentSum_cons]
  change 0 ≤ parent.share (parent.substepsDone + step.weight) + _ ∧
    parent.share (parent.substepsDone + step.weight) + _ ≤ 100
  constructor <;> linarith

/-- A step at its end. -/
def RaucProgressStep.finished (step : RaucProgressStep) : RaucProgressStep :=
  { step with substepsDone := step.substepsTotal, percentDone := step.percentTotal }

lemma rContextEndStep_eq {success : Bool} (hbound : step.substepsDone ≤ step.substepsTotal)
    (hall : success = true → step.substepsDone = step.substepsTotal) :
    rContextEndStep step.name success ⟨step :: outer, reports⟩ =
      (match outer with
      | [] => popStep success ⟨[step.finished], reports⟩
      | parent :: outer => do
        let st ← passToParent step.finished parent outer ⟨step :: parent :: outer, reports⟩
        checkPassed st
        popStep success st) := by
  have hfinished : (if success = true then { step with percentDone := step.percentTotal }
      else { step with percentDone := step.percentTotal, substepsDone := step.substepsTotal }) =
        step.finished := by
    unfold RaucProgressStep.finished
    by_cases hok : success = true
    · rw [if_pos hok, ← hall hok]
    · rw [if_neg hok]
  have hname : (if success = true then { step with percentDone := step.percentTotal }
      else { step with percentDone := step.percentTotal,
                       substepsDone := step.substepsTotal }).name = step.name := by
    rw [hfinished]
    rfl
  unfold rContextEndStep
  dsimp only
  rw [if_neg (by omega), if_neg (fun h => by have := hall h.1; omega),
    if_neg (not_not.mpr hname), hfinished]
  cases outer <;> rfl

lemma rContextEndStep_root {success : Bool} (htotal : step.percentTotal = 100)
    (hbound : step.substepsDone ≤ step.substepsTotal)
    (hall : success = true → step.substepsDone = step.substepsTotal) :
    rContextEndStep step.name success ⟨[step], reports⟩ =
      .ok ⟨[], reports ++ [⟨100, finishedText success step.description, 1⟩]⟩ := by
  have hdone : donePercentage step.finished [] = 100 := htotal
  have hreport : reportOf step.finished [] (finishedText success step.description) =
      ⟨100, finishedText success step.description, 1⟩ := by
    have hfull : step.finished.percentDone = 100 := htotal
    unfold reportOf shownPercentage
    rw [hdone, hfull]
    norm_num [truncate]
  rw [rContextEndStep_eq hbound hall, ← hreport]
  exact popStep_eq (by rw [hdone]; norm_num) hdone.le success

lemma checkPassed_eq {last : RaucProgressStep} (hlow : 0 ≤ last.percentDone)
    (hle : last.percentDone ≤ parent.percentDone) :
      checkPassed ⟨last :: parent :: outer, reports⟩ = .ok () := by
  unfold checkPassed
  dsimp only
  rw [if_neg (not_lt.mpr (truncate_mono hlow hle))]

lemma rContextEndStep_inner {success : Bool} (h : Accounted step (parent :: outer))
    (hstep : step.Innermost)
    (hall : success = true → step.substepsDone = step.substepsTotal) :
    ∃ (last : RaucProgressStep) (message : String), last.percentDone ≤ step.percentTotal ∧
      (step.lastExplicitPercent = 0 → last.percentDone = step.percentTotal) ∧
      rContextEndStep step.name success ⟨step :: parent :: outer, reports⟩ =
        .ok ⟨parent.advance step.weight :: outer,
          reports ++ [reportOf last (parent.advance step.weight :: outer) message]⟩ := by
  obtain ⟨hsumLow, hsumHigh⟩ := h.advance_sum
  have hfinished : Accounted step.finished (parent :: outer) := h
  obtain ⟨last, hlow, hhigh, hwhole, hpass⟩ :=
    passToParent_eq hfinished hstep.least hstep.most rfl ⟨step :: parent :: outer, reports⟩
  have hparent : last.percentDone ≤ (parent.advance step.weight).percentDone := by
    have hshare : (parent.advance step.weight).percentDone =
        parent.share parent.substepsDone + step.percentTotal := by
      unfold RaucProgressStep.advance
      dsimp only
      rw [share_add, h.1]
    have hearlier := share_nonneg h.2.2.2.2.2.total_bounds.1 parent.substepsDone
    have hlast : last.percentDone ≤ step.percentTotal := hhigh
    rw [hshare]
    linarith
  have hpop := @popStep_eq last (parent.advance step.weight :: outer) reports hsumLow
    hsumHigh success
  refine ⟨last, finishedText success last.description, hhigh, hwhole, ?_⟩
  rw [rContextEndStep_eq hstep.substeps hall]
  dsimp only
  rw [hpass]
  change (do checkPassed ⟨last :: parent.advance step.weight :: outer, reports⟩
             popStep success ⟨last :: parent.advance step.weight :: outer, reports⟩) = _
  rw [checkPassed_eq hlow hparent]
  exact hpop

end Calls

section Runs

variable {step : RaucProgressStep} {outer : List RaucProgressStep} {reports : List ProgressReport}

/-- What the next report cannot fall below. -/
def reached (step : RaucProgressStep) (outer : List RaucProgressStep) : ℚ :=
  percentSum outer + if step.substepsTotal = 0 then 0 else step.percentDone

lemma reached_new (h : step.percentDone = 0) : reached step outer = percentSum outer := by
  unfold reached
  rw [h, ite_self, add_zero]

lemma reached_leaf (h : step.substepsTotal = 0) : reached step outer = percentSum outer := by
  unfold reached
  rw [if_pos h, add_zero]

/-- The whole operation is accounted for, and only the ends of steps can follow. -/
def RaucProgressStep.Closed (step : RaucProgressStep) : Prop :=
  step.percentTotal = 100 ∧ 0 < step.substepsTotal ∧ step.substepsDone = step.substepsTotal

/-- A report does not go back behind the one before, unless that one ended an operation and this one
starts the next. -/
def Continues (a b : ProgressReport) : Prop :=
  a.percentage ≤ b.percentage ∨ (a.nestingDepth = 1 ∧ a.percentage = 100 ∧ b.nestingDepth = 1 ∧
    b.percentage = 0)

structure Reported (reports : List ProgressReport) : Prop where
  bounds : ∀ report ∈ reports, 0 ≤ report.percentage ∧ report.percentage ≤ 100
  chain : reports.IsChain Continues

/-- The steps under way, and the last report about them. -/
def UnderWay (reports : List ProgressReport) : List RaucProgressStep → Prop
  | [] => ∀ last ∈ reports.getLast?, last.nestingDepth = 1 ∧ last.percentage = 100
  | step :: outer => Accounted step outer ∧ step.Innermost ∧
      ∀ last ∈ reports.getLast?, (last.percentage : ℚ) ≤ reached step outer ∧
        (last.percentage ≤ 99 ∨ step.Closed)

lemma Reported.snoc (h : Reported reports) {report : ProgressReport} (hlow : 0 ≤ report.percentage)
    (hhigh : report.percentage ≤ 100) (hnext : ∀ last ∈ reports.getLast?, Continues last report) :
    Reported (reports ++ [report]) := by
  refine ⟨?_, ?_⟩
  · intro r hr
    rcases List.mem_append.mp hr with hold | hnew
    · exact h.bounds r hold
    · rw [List.mem_singleton.mp hnew]
      exact ⟨hlow, hhigh⟩
  · refine List.isChain_append.mpr ⟨h.chain, List.isChain_singleton _, ?_⟩
    intro last hlast next hnew
    rw [List.head?_singleton, Option.mem_some_iff] at hnew
    exact hnew ▸ hnext last hlast

/-- The report of a step `top` whose value is at least what was reached before. -/
lemma Reported.report (h : Reported reports) (hway : UnderWay reports (step :: outer))
    (top : RaucProgressStep)
    (around : List RaucProgressStep) (hlow : 0 ≤ donePercentage top around)
    (hhigh : donePercentage top around ≤ 100)
    (hreached : reached step outer ≤ donePercentage top around)
    (hclosed : step.Closed → 100 ≤ top.percentDone)
    (message : String) : Reported (reports ++ [reportOf top around message]) := by
  have hnonneg := shownPercentage_nonneg hlow
  refine h.snoc (truncate_nonneg hnonneg) (truncate_le_hundred hnonneg
    (shownPercentage_le.trans hhigh)) ?_
  intro last hlast
  obtain ⟨hle, hfree⟩ := hway.2.2 last hlast
  refine .inl (le_truncate hnonneg (le_shownPercentage (hle.trans hreached) ?_))
  exact hfree.imp (fun h => by exact_mod_cast h) hclosed

/-- What the last report says after it. -/
lemma last_report (top : RaucProgressStep) (around : List RaucProgressStep)
    (hlow : 0 ≤ donePercentage top around)
    (hreached : donePercentage top around ≤ reached step outer)
    (hclosed : top.percentDone < 100 ∨ step.Closed)
    (message : String) :
    ∀ last ∈ (reports ++ [reportOf top around message]).getLast?,
      (last.percentage : ℚ) ≤ reached step outer ∧ (last.percentage ≤ 99 ∨ step.Closed) := by
  have hnonneg := shownPercentage_nonneg hlow
  intro last hlast
  rw [List.getLast?_append_of_ne_nil _ (List.cons_ne_nil _ _), List.getLast?_singleton,
    Option.mem_some_iff] at hlast
  rw [← hlast]
  refine ⟨(truncate_le hnonneg).trans (shownPercentage_le.trans hreached), hclosed.imp_left ?_⟩
  intro hopen
  have hle : (truncate (shownPercentage top around) : ℚ) ≤ 99 :=
    (truncate_le hnonneg).trans (shownPercentage_le_99 hopen)
  exact_mod_cast hle

/-- A call that fits the steps under way: substeps do not outweigh their step, percentages are set
on steps without substeps, and only the innermost step ends. -/
def NestedCall (st : ProgressState) : ProgressCall → Prop
  | .begin _ _ _ weight =>
    ∀ parent ∈ st.progress.head?, parent.substepsDone + weight ≤ parent.substepsTotal
  | .set name percent => 0 ≤ percent ∧ percent ≤ 100 ∧ 2 ≤ st.progress.length ∧
      ∀ step ∈ st.progress.head?, step.name = name ∧ step.substepsTotal = 0
  | .inc name => 2 ≤ st.progress.length ∧
      ∀ step ∈ st.progress.head?, step.name = name ∧ step.substepsTotal = 0 ∧
        step.lastExplicitPercent + 1 ≤ 100
  | .end_ name _ => 1 ≤ st.progress.length ∧ ∀ step ∈ st.progress.head?, step.name = name

instance (st : ProgressState) : (call : ProgressCall) → Decidable (NestedCall st call)
  | .begin _ _ _ _ => inferInstanceAs (Decidable (∀ _ ∈ _, _))
  | .set _ _ => inferInstanceAs (Decidable (_ ∧ _ ∧ _ ∧ ∀ _ ∈ _, _))
  | .inc _ => inferInstanceAs (Decidable (_ ∧ ∀ _ ∈ _, _))
  | .end_ _ _ => inferInstanceAs (Decidable (_ ∧ ∀ _ ∈ _, _))

/-- Every substep has a weight, and a step only succeeds with all of its substeps. -/
def CompleteCall (st : ProgressState) : ProgressCall → Prop
  | .begin _ _ _ weight => 0 < weight
  | .end_ _ success =>
    success = true → ∀ step ∈ st.progress.head?, step.substepsDone = step.substepsTotal
  | _ => True

/-- All that a call can do to the steps under way. -/
inductive StackMove : List RaucProgressStep → List RaucProgressStep → Prop
  | push (step : RaucProgressStep) (steps : List RaucProgressStep) : StackMove steps (step :: steps)
  | stay (steps : List RaucProgressStep) : StackMove steps steps
  | set (step parent : RaucProgressStep) (outer : List RaucProgressStep) (percent : Int) :
    StackMove (step :: parent :: outer) (step.set percent :: parent.raise
      (step.set percent).percentDone :: outer)
  | pop (step parent : RaucProgressStep) (outer : List RaucProgressStep) :
    StackMove (step :: parent :: outer) (parent.advance step.weight :: outer)
  | popRoot (step : RaucProgressStep) : StackMove [step] []

structure ProgressInv (st : ProgressState) : Prop where
  reported : Reported st.reports
  underWay : UnderWay st.reports st.progress

lemma progressInv_begin {parent : RaucProgressStep} {name description : String}
    {substeps weight : Nat}
    (h : ProgressInv ⟨parent :: outer, reports⟩)
    (hroom : parent.substepsDone + weight ≤ parent.substepsTotal)
    (hfree : parent.substepsDone < parent.substepsTotal) :
    ProgressInv ⟨substepOf parent name description substeps weight :: parent :: outer, reports ++
        [reportOf (substepOf parent name description substeps weight) (parent :: outer)
          description]⟩ := by
  obtain ⟨hreported, hway⟩ := h
  have hacc := hway.1.begin hway.2.1 (by omega) hroom name description substeps
  have hlow : 0 ≤ percentSum (parent :: outer) := hacc.percentSum_nonneg (le_refl _)
  have hhigh : percentSum (parent :: outer) ≤ 100 :=
    hacc.percentSum_le_hundred (by simp [substepOf])
  have hreached : reached parent outer = percentSum (parent :: outer) := by
    unfold reached
    rw [if_neg (by omega), percentSum_cons, add_comm]
  have hnew : percentSum (parent :: outer) =
      reached (substepOf parent name description substeps weight) (parent :: outer) :=
        (reached_new rfl).symm
  have hopen : ¬ parent.Closed := fun h => by have := h.2.2; omega
  refine ⟨hreported.report hway (substepOf parent name description substeps weight)
    (parent :: outer) hlow hhigh
    hreached.le (fun h => absurd h hopen) description, hacc, innermost_new rfl rfl rfl, ?_⟩
  exact last_report (substepOf parent name description substeps weight) (parent :: outer) hlow
    hnew.le (.inl (by norm_num [substepOf])) description

lemma progressInv_root {name description : String} {substeps weight : Nat}
    (h : ProgressInv ⟨[], reports⟩) :
    ProgressInv ⟨[rootStep name description substeps weight],
      reports ++ [⟨0, description, 1⟩]⟩ := by
  obtain ⟨hreported, hway⟩ := h
  refine ⟨hreported.snoc (le_refl _) (by norm_num) ?_, ⟨rfl, rfl⟩, innermost_new rfl rfl rfl, ?_⟩
  · intro last hlast
    obtain ⟨hdepth, hfull⟩ := hway last hlast
    exact .inr ⟨hdepth, hfull, rfl, rfl⟩
  · intro last hlast
    rw [List.getLast?_append_of_ne_nil _ (List.cons_ne_nil _ _), List.getLast?_singleton,
      Option.mem_some_iff] at hlast
    rw [← hlast]
    rw [reached_new rfl]
    exact ⟨by simp [percentSum], .inl (by norm_num)⟩

lemma progressInv_end_root {message : String} (h : ProgressInv ⟨[step], reports⟩) :
    ProgressInv ⟨[], reports ++ [⟨100, message, 1⟩]⟩ := by
  obtain ⟨hreported, hway⟩ := h
  refine ⟨hreported.snoc (by norm_num) (le_refl _) ?_, ?_⟩
  · intro last hlast
    exact .inl (hreported.bounds last (List.mem_of_getLast? hlast)).2
  · intro last hlast
    rw [List.getLast?_append_of_ne_nil _ (List.cons_ne_nil _ _), List.getLast?_singleton,
      Option.mem_some_iff] at hlast
    rw [← hlast]
    exact ⟨rfl, rfl⟩

/-- A substep that is worth everything is the only one of its step. -/
lemma Accounted.closed_advance {parent : RaucProgressStep} (h : Accounted step (parent :: outer))
    (hall : 100 ≤ step.percentTotal) : (parent.advance step.weight).Closed := by
  obtain ⟨htotal, hpos, hroom, -, -, hrest⟩ := h
  obtain ⟨hnonneg, hle⟩ := hrest.total_bounds
  have hshare : parent.share step.weight ≤ parent.percentTotal :=
    share_le_total hnonneg hpos (by omega)
  have hparent : parent.percentTotal = 100 := by linarith
  have hweight : step.weight = parent.substepsTotal :=
    eq_of_share_eq_total (by linarith) hpos (le_antisymm hshare (by linarith))
  exact ⟨hparent, hpos, by change parent.substepsDone + step.weight = parent.substepsTotal; omega⟩

lemma progressInv_end {parent last : RaucProgressStep} {message : String}
    (h : ProgressInv ⟨step :: parent :: outer, reports⟩)
    (hlast : last.percentDone ≤ step.percentTotal)
    (hwhole : step.lastExplicitPercent = 0 → last.percentDone = step.percentTotal) :
    ProgressInv ⟨parent.advance step.weight :: outer,
      reports ++ [reportOf last (parent.advance step.weight :: outer) message]⟩ := by
  obtain ⟨hreported, hway⟩ := h
  obtain ⟨hacc, hstep, -⟩ := id hway
  obtain ⟨hlow, hhigh⟩ := hacc.advance_sum
  have hpos := hacc.2.1
  have hsum : percentSum (parent.advance step.weight :: outer) =
      reached (parent.advance step.weight) outer := by
    unfold reached
    rw [if_neg (by change ¬ parent.substepsTotal = 0; omega), percentSum_cons, add_comm]
  -- the parent gets what is missing of the step
  have hreached : reached step (parent :: outer) ≤
      percentSum (parent.advance step.weight :: outer) := by
    have hadvance : (parent.advance step.weight).percentDone =
        parent.share parent.substepsDone + step.percentTotal := by
      unfold RaucProgressStep.advance
      dsimp only
      rw [share_add, hacc.1]
    unfold reached
    rw [percentSum_cons, percentSum_cons, hadvance, hacc.2.2.2.1]
    by_cases hleaf : step.substepsTotal = 0
    · have hmost : (step.lastExplicitPercent : ℚ) / 100 ≤ 1 := by
        have : (step.lastExplicitPercent : ℚ) ≤ 100 := by exact_mod_cast hstep.most
        linarith
      have hpart := mul_le_of_le_one_right hacc.total_bounds.1 hmost
      rw [if_pos hleaf]
      linarith
    · obtain ⟨hplain, hdone⟩ := hstep.sums (by omega)
      have hpart := share_le_total hacc.total_bounds.1 (by omega) hstep.substeps
      rw [if_neg hleaf, hplain, hdone]
      norm_num
      linarith
  refine ⟨hreported.report hway last (parent.advance step.weight :: outer) hlow hhigh hreached ?_
    message, hacc.advance, hacc.innermost_advance, ?_⟩
  · intro hclosed
    rw [hwhole (hstep.sums hclosed.2.1).1]
    exact hclosed.1.ge
  · refine last_report last (parent.advance step.weight :: outer) hlow hsum.le ?_ message
    by_cases hfull : last.percentDone < 100
    · exact .inl hfull
    · exact .inr (hacc.closed_advance ((not_lt.mp hfull).trans hlast))

lemma progressInv_set {parent : RaucProgressStep} {percent : Int}
    (h : ProgressInv ⟨step :: parent :: outer, reports⟩)
    (hleaf : step.substepsTotal = 0) (hmost : percent ≤ 100) :
    ∃ st, rContextSetStepPercentage step.name percent ⟨step :: parent :: outer, reports⟩ = .ok st ∧
      ProgressInv st ∧
      StackMove (step :: parent :: outer) st.progress := by
  by_cases hless : percent - step.lastExplicitPercent < 1
  · exact ⟨_, rContextSetStepPercentage_same hless, h, .stay _⟩
  · obtain ⟨hreported, hway⟩ := h
    obtain ⟨hacc, hstep, hlast⟩ := id hway
    have hleast := hstep.least
    have hnext := hacc.set percent
    have htotal := hacc.total_bounds
    have hinner : (step.set percent).Innermost :=
      ⟨hstep.substeps, by change 0 ≤ percent; omega, hmost, fun hpos => absurd hleaf (by
        have : 0 < step.substepsTotal := hpos
        omega)⟩
    have hdifference : (0 : ℚ) ≤ ((percent - step.lastExplicitPercent : Int) : ℚ) / 100 := by
      have : (0 : ℚ) ≤ ((percent - step.lastExplicitPercent : Int) : ℚ) := by
        exact_mod_cast (by omega)
      positivity
    have hamount : 0 ≤ (step.set percent).percentDone := mul_nonneg htotal.1 hdifference
    have hsum : percentSum (parent.raise (step.set percent).percentDone :: outer) =
        percentSum (parent :: outer) + (step.set percent).percentDone := by
      rw [percentSum_cons, percentSum_cons]
      simp only [RaucProgressStep.raise]
      ring
    have hold : reached step (parent :: outer) = percentSum (parent :: outer) := reached_leaf hleaf
    have hnew : reached (step.set percent) (parent.raise (step.set percent).percentDone :: outer) =
        percentSum (parent.raise (step.set percent).percentDone :: outer) := reached_leaf hleaf
    have hopen : ¬ step.Closed := fun h => by have := h.2.1; omega
    rw [rContextSetStepPercentage_more hless]
    by_cases hall : percent = 100
    · rw [if_pos hall]
      refine ⟨_, rfl, ⟨hreported, hnext, hinner, ?_⟩, .set step parent outer percent⟩
      intro last hmem
      obtain ⟨hle, hfree⟩ := hlast last hmem
      exact ⟨by rw [hnew, hsum]; linarith, .inl (hfree.resolve_right hopen)⟩
    · rw [if_neg hall]
      have hlow : 0 ≤ percentSum (parent.raise (step.set percent).percentDone :: outer) :=
        hnext.percentSum_nonneg hinner.least
      have hhigh : percentSum (parent.raise (step.set percent).percentDone :: outer) ≤ 100 :=
        hnext.percentSum_le_hundred hmost
      have hpart : (step.set percent).percentDone < 100 := by
        have hfew : ((percent - step.lastExplicitPercent : Int) : ℚ) ≤ 99 := by
          exact_mod_cast (by omega)
        have hbound : (step.set percent).percentDone ≤ 100 * (99 / 100) :=
          mul_le_mul htotal.2 (by linarith) hdifference (by norm_num)
        linarith
      refine ⟨_, rContextSendProgress_none hlow hhigh, ⟨?_, hnext, hinner, ?_⟩,
        .set step parent outer percent⟩
      · exact hreported.report hway (step.set percent)
          (parent.raise (step.set percent).percentDone :: outer) hlow hhigh
          (by rw [hold]; exact hsum.ge.trans' (by linarith)) (fun h => absurd h hopen) _
      · exact last_report (step.set percent) (parent.raise (step.set percent).percentDone :: outer)
          hlow hnew.ge
          (.inl hpart) _

/-- A call returns and keeps the account, or there is no weight or not every substep for it. -/
lemma progressCall_step {st : ProgressState} (h : ProgressInv st) {call : ProgressCall}
    (hnested : NestedCall st call) :
    (∃ st', progressCall st call = .ok st' ∧ ProgressInv st' ∧ StackMove st.progress st'.progress) ∨
      (¬ CompleteCall st call ∧ ∃ e, progressCall st call = .error e) := by
  obtain ⟨progress, reports⟩ := st
  cases call with
  | begin name description substeps weight =>
    cases progress with
    | nil =>
      exact .inl ⟨_, rContextBeginStepWeighted_root name description substeps weight,
        progressInv_root h, .push _ _⟩
    | cons parent outer =>
      have hroom : parent.substepsDone + weight ≤ parent.substepsTotal := hnested parent rfl
      by_cases hfree : parent.substepsDone < parent.substepsTotal
      · exact .inl ⟨_, rContextBeginStepWeighted_inner h.underWay.1 h.underWay.2.1 hroom hfree name
          description substeps,
          progressInv_begin h hroom hfree, .push _ _⟩
      · refine .inr ⟨fun hweight => ?_, ?_⟩
        · have : 0 < weight := hweight
          omega
        · exact rContextBeginStepWeighted_full hfree (by omega) name description substeps weight
  | set name percent =>
    obtain ⟨-, hmost, hdepth, hstep⟩ := hnested
    match progress, hdepth with
    | step :: parent :: outer, _ =>
      obtain ⟨rfl, hleaf⟩ := hstep step rfl
      exact .inl (progressInv_set h hleaf hmost)
  | inc name =>
    obtain ⟨hdepth, hstep⟩ := hnested
    match progress, hdepth with
    | step :: parent :: outer, _ =>
      obtain ⟨rfl, hleaf, hmost⟩ := hstep step rfl
      exact .inl (progressInv_set h hleaf hmost)
  | end_ name success =>
    obtain ⟨hdepth, hname⟩ := hnested
    obtain ⟨step, outer, rfl⟩ := List.exists_cons_of_length_pos hdepth
    obtain rfl : step.name = name := hname step rfl
    have hstep := h.underWay.2.1
    by_cases hall : success = true → step.substepsDone = step.substepsTotal
    · cases outer with
      | nil =>
        exact .inl ⟨_, rContextEndStep_root h.underWay.1.1 hstep.substeps hall,
          progressInv_end_root h, .popRoot _⟩
      | cons parent outer =>
        obtain ⟨last, message, hlast, hwhole, hend⟩ := rContextEndStep_inner h.underWay.1 hstep hall
        exact .inl ⟨_, hend, progressInv_end h hlast hwhole, .pop _ _ _⟩
    · refine .inr ⟨fun hcomplete => hall (fun hok => hcomplete hok step rfl), ?_⟩
      have hbound := hstep.substeps
      unfold progressCall rContextEndStep
      dsimp only
      obtain ⟨hok, hfew⟩ := Classical.not_imp.mp hall
      rw [if_neg (by omega), if_pos ⟨hok, by omega⟩]
      exact ⟨_, rfl⟩

lemma progressCall_ok {st st' : ProgressState} (h : ProgressInv st) {call : ProgressCall}
    (hnested : NestedCall st call)
    (hcall : progressCall st call = .ok st') :
      ProgressInv st' ∧ StackMove st.progress st'.progress := by
  rcases progressCall_step h hnested with ⟨next, hnext, hinv, hmove⟩ | ⟨-, e, he⟩
  · obtain rfl : next = st' := Except.ok.inj (hnext.symm.trans hcall)
    exact ⟨hinv, hmove⟩
  · rw [he] at hcall
    cases hcall

/-- Calls that fit the steps under way, as far as they return. -/
def NestedCalls : ProgressState → List ProgressCall → Prop
  | _, [] => True
  | st, call :: calls => NestedCall st call ∧
      match progressCall st call with
      | .ok st' => NestedCalls st' calls
      | .error _ => True

instance decidableNestedCalls : ∀ (st : ProgressState) (calls : List ProgressCall), Decidable
    (NestedCalls st calls)
  | _, [] => inferInstanceAs (Decidable True)
  | st, call :: calls =>
    have : Decidable (match progressCall st call with
        | .ok st' => NestedCalls st' calls
        | .error _ => True) :=
      match progressCall st call with
      | .ok st' => decidableNestedCalls st' calls
      | .error _ => inferInstanceAs (Decidable True)
    inferInstanceAs (Decidable (_ ∧ _))

lemma NestedCalls.next {st next : ProgressState} {call : ProgressCall} {calls : List ProgressCall}
    (h : NestedCalls st (call :: calls)) (hcall : progressCall st call = .ok next) :
      NestedCalls next calls := by
  have hrest := h.2
  rwa [hcall] at hrest

lemma progressCalls_cons {st st' : ProgressState} {call : ProgressCall} {calls : List ProgressCall}
    (h : progressCalls st (call :: calls) = .ok st') :
    ∃ next, progressCall st call = .ok next ∧ progressCalls next calls = .ok st' := by
  cases hcall : progressCall st call with
  | error e =>
    rw [progressCalls, hcall] at h
    cases h
  | ok next =>
    rw [progressCalls, hcall] at h
    exact ⟨next, rfl, h⟩

lemma progressCalls_append {st st' : ProgressState} {calls more : List ProgressCall}
    (h : progressCalls st (calls ++ more) = .ok st') :
    ∃ next, progressCalls st calls = .ok next ∧ progressCalls next more = .ok st' := by
  induction calls generalizing st with
  | nil => exact ⟨st, rfl, h⟩
  | cons call calls ih =>
    obtain ⟨first, hfirst, hrest⟩ := progressCalls_cons h
    obtain ⟨next, hcalls, hmore⟩ := ih hrest
    refine ⟨next, ?_, hmore⟩
    rw [progressCalls, hfirst]
    exact hcalls

lemma nestedCalls_append {st next : ProgressState} {calls more : List ProgressCall}
    (h : NestedCalls st (calls ++ more)) (hcalls : progressCalls st calls = .ok next) :
    NestedCalls st calls ∧ NestedCalls next more := by
  induction calls generalizing st with
  | nil =>
    obtain rfl : st = next := Except.ok.inj hcalls
    exact ⟨trivial, h⟩
  | cons call calls ih =>
    obtain ⟨first, hfirst, hrest⟩ := progressCalls_cons hcalls
    obtain ⟨hnested, hmore⟩ := ih (h.next hfirst) hrest
    refine ⟨⟨h.1, ?_⟩, hmore⟩
    rwa [hfirst]

lemma progressCalls_inv {st st' : ProgressState} {calls : List ProgressCall} (h : ProgressInv st)
    (hnested : NestedCalls st calls) (hrun : progressCalls st calls = .ok st') :
      ProgressInv st' := by
  induction calls generalizing st with
  | nil =>
    obtain rfl : st = st' := Except.ok.inj hrun
    exact h
  | cons call calls ih =>
    obtain ⟨next, hcall, hrest⟩ := progressCalls_cons hrun
    exact ih (progressCall_ok h hnested.1 hcall).1 (hnested.next hcall) hrest

end Runs

section Contributions

variable {parent : RaucProgressStep} {outer : List RaucProgressStep} {weight : Nat}

/-- A substep of this weight of `parent` is under way. -/
def Within (parent : RaucProgressStep) (outer : List RaucProgressStep) (weight : Nat)
    (steps : List RaucProgressStep) : Prop :=
  ∃ (above : List RaucProgressStep) (child : RaucProgressStep) (amount : ℚ),
    steps = above ++ child :: parent.raise amount :: outer ∧ child.weight = weight

lemma raise_raise (step : RaucProgressStep) (a b : ℚ) :
    (step.raise a).raise b = step.raise (a + b) := by
  simp [RaucProgressStep.raise, add_assoc]

lemma within_move {steps steps' : List RaucProgressStep} (h : Within parent outer weight steps)
    (hmove : StackMove steps steps') (hdeep : outer.length + 1 < steps'.length) :
      Within parent outer weight steps' := by
  obtain ⟨above, child, amount, hsteps, hweight⟩ := h
  cases hmove with
  | push step => exact ⟨step :: above, child, amount, by rw [hsteps]; rfl, hweight⟩
  | stay => exact ⟨above, child, amount, hsteps, hweight⟩
  | set step second rest percent =>
    match above, hsteps with
    | [], hsteps =>
      obtain ⟨rfl, hrest⟩ := List.cons.inj hsteps
      obtain ⟨rfl, rfl⟩ := List.cons.inj hrest
      refine ⟨[], step.set percent, amount + (step.set percent).percentDone, ?_, hweight⟩
      rw [raise_raise]
      rfl
    | [top], hsteps =>
      obtain ⟨rfl, hrest⟩ := List.cons.inj hsteps
      obtain ⟨rfl, rfl⟩ := List.cons.inj hrest
      exact ⟨[step.set percent], second.raise (step.set percent).percentDone, amount, rfl, hweight⟩
    | top :: next :: above, hsteps =>
      obtain ⟨rfl, hrest⟩ := List.cons.inj hsteps
      obtain ⟨rfl, rfl⟩ := List.cons.inj hrest
      exact ⟨step.set percent :: second.raise (step.set percent).percentDone :: above, child,
        amount, rfl, hweight⟩
  | pop step second rest =>
    match above, hsteps with
    | [], hsteps =>
      obtain ⟨-, hrest⟩ := List.cons.inj hsteps
      obtain ⟨-, rfl⟩ := List.cons.inj hrest
      simp at hdeep
    | [top], hsteps =>
      obtain ⟨rfl, hrest⟩ := List.cons.inj hsteps
      obtain ⟨rfl, rfl⟩ := List.cons.inj hrest
      exact ⟨[], second.advance step.weight, amount, rfl, hweight⟩
    | top :: next :: above, hsteps =>
      obtain ⟨rfl, hrest⟩ := List.cons.inj hsteps
      obtain ⟨rfl, rfl⟩ := List.cons.inj hrest
      exact ⟨second.advance step.weight :: above, child, amount, rfl, hweight⟩
  | popRoot step => simp at hdeep

/-- The call that leaves the substep hands its share to the parent. -/
lemma within_left {steps steps' : List RaucProgressStep} (h : Within parent outer weight steps)
    (hmove : StackMove steps steps') (hdepth : steps'.length = outer.length + 1) :
    ∃ amount, steps' = (parent.raise amount).advance weight :: outer := by
  obtain ⟨above, child, amount, hsteps, rfl⟩ := h
  have hlength := congrArg List.length hsteps
  simp only [List.length_append, List.length_cons] at hlength
  cases hmove with
  | push step =>
    rw [List.length_cons] at hdepth
    omega
  | stay => omega
  | set step second rest percent =>
    simp only [List.length_cons] at hdepth hlength
    omega
  | pop step second rest =>
    simp only [List.length_cons] at hdepth hlength
    obtain rfl : above = [] := List.length_eq_zero_iff.mp (by omega)
    obtain ⟨rfl, hrest⟩ := List.cons.inj hsteps
    obtain ⟨rfl, rfl⟩ := List.cons.inj hrest
    exact ⟨amount, rfl⟩
  | popRoot step => simp at hdepth

lemma within_run {st st' : ProgressState} {calls : List ProgressCall} (hinv : ProgressInv st)
    (hnested : NestedCalls st calls) (hrun : progressCalls st calls = .ok st')
    (h : Within parent outer weight st.progress)
    (hdeep : ∀ first rest during, calls = first ++ rest → progressCalls st first = .ok during →
      outer.length + 1 < during.progress.length) : Within parent outer weight st'.progress := by
  induction calls generalizing st with
  | nil =>
    obtain rfl : st = st' := Except.ok.inj hrun
    exact h
  | cons call calls ih =>
    obtain ⟨next, hcall, hrest⟩ := progressCalls_cons hrun
    obtain ⟨hinv', hmove⟩ := progressCall_ok hinv hnested.1 hcall
    have hfirst : ∀ first, progressCalls st (call :: first) = progressCalls next first := by
      intro first
      rw [progressCalls, hcall]
      rfl
    refine ih hinv' (hnested.next hcall) hrest
      (within_move h hmove (hdeep [call] calls next rfl (hfirst []))) ?_
    intro first rest during hsplit hduring
    exact hdeep (call :: first) rest during (by rw [hsplit]; rfl) ((hfirst first).trans hduring)

lemma progressInv_start : ProgressInv {} :=
  ⟨⟨by simp, List.IsChain.nil⟩, by simp [UnderWay]⟩

lemma begin_progress {reports : List ProgressReport} {name description : String} {substeps : Nat}
    {st : ProgressState}
    (hinv : ProgressInv ⟨parent :: outer, reports⟩)
    (hnested : NestedCall ⟨parent :: outer, reports⟩ (.begin name description substeps weight))
    (hbegin : progressCall ⟨parent :: outer, reports⟩ (.begin name description substeps weight) =
      .ok st) :
    0 < parent.substepsTotal ∧ st.progress = substepOf parent name description substeps weight ::
      parent :: outer := by
  have hroom : parent.substepsDone + weight ≤ parent.substepsTotal := hnested parent rfl
  change rContextBeginStepWeighted name description substeps weight ⟨parent :: outer, reports⟩ =
    .ok st at hbegin
  by_cases hfree : parent.substepsDone < parent.substepsTotal
  · rw [rContextBeginStepWeighted_inner hinv.underWay.1 hinv.underWay.2.1 hroom hfree] at hbegin
    exact ⟨by omega, (Except.ok.inj hbegin) ▸ rfl⟩
  · obtain ⟨e, he⟩ :=
      @rContextBeginStepWeighted_full parent outer reports hfree (by omega) name description
        substeps weight
    rw [he] at hbegin
    cases hbegin

/-- A substep that has begun after `pre` and that the last call leaves has added its percentage to
its parent, once. -/
lemma substep_contributes {pre mid : List ProgressCall} {name description : String} {substeps : Nat}
    {call : ProgressCall} {before st : ProgressState}
    (hnested : NestedCalls {} (pre ++ .begin name description substeps weight :: (mid ++ [call])))
    (hrun : progressCalls {} (pre ++ .begin name description substeps weight :: (mid ++ [call])) =
      .ok st)
    (hbefore : progressCalls {} pre = .ok before) (hprogress : before.progress = parent :: outer)
    (hdeep : ∀ first rest during, mid = first ++ rest →
      progressCalls before (.begin name description substeps weight :: first) = .ok during →
      outer.length + 1 < during.progress.length)
    (hdepth : st.progress.length = outer.length + 1) :
    st.progress = { parent with
      substepsDone := parent.substepsDone + weight
      percentDone := parent.percentDone + weight * parent.percentTotal /
        parent.substepsTotal } :: outer := by
  obtain ⟨start, hstart, hafter⟩ := progressCalls_append hrun
  obtain rfl : start = before := Except.ok.inj (hstart.symm.trans hbefore)
  obtain ⟨hnestedPre, hnestedAfter⟩ := nestedCalls_append hnested hbefore
  have hinv := progressCalls_inv progressInv_start hnestedPre hbefore
  obtain ⟨reports, rfl⟩ : ∃ reports, start = ⟨parent :: outer, reports⟩ := by
    rw [← hprogress]
    exact ⟨start.reports, rfl⟩
  obtain ⟨first, hbegin, hrest⟩ := progressCalls_cons hafter
  obtain ⟨hpos, hfirst⟩ := begin_progress hinv hnestedAfter.1 hbegin
  have hwithin : Within parent outer weight first.progress :=
    ⟨[], substepOf parent name description substeps weight,
      0, by rw [hfirst]; simp [RaucProgressStep.raise], rfl⟩
  have hinvFirst := (progressCall_ok hinv hnestedAfter.1 hbegin).1
  -- the calls inside the substep, and the one that leaves it
  obtain ⟨last, hmid, hend⟩ := progressCalls_append hrest
  obtain ⟨hnestedMid, hnestedEnd⟩ := nestedCalls_append (hnestedAfter.next hbegin) hmid
  have hinvLast := progressCalls_inv hinvFirst hnestedMid hmid
  have hlast : Within parent outer weight last.progress := by
    refine within_run hinvFirst hnestedMid hmid hwithin ?_
    intro inner rest during hsplit hduring
    refine hdeep inner rest during hsplit ?_
    rw [progressCalls, hbegin]
    exact hduring
  obtain ⟨final, hcall, hfinal⟩ := progressCalls_cons hend
  obtain rfl : final = st := Except.ok.inj hfinal
  obtain ⟨amount, hst⟩ := within_left hlast (progressCall_ok hinvLast hnestedEnd.1 hcall).2 hdepth
  have hshare : parent.share (parent.substepsDone + weight) =
      parent.percentDone + weight * parent.percentTotal / parent.substepsTotal := by
    rw [share_add, (hinv.underWay.2.1.sums hpos).2]
    unfold RaucProgressStep.share
    ring
  rw [hst, ← hshare]
  rfl

/-- The reports of nested calls stay between 0 and 100 and do not decrease during an operation,
every further call that fits goes through, and a step that ends has given exactly its percentage to
its parent. -/
theorem progressCalls_contract (calls : List ProgressCall) (st : ProgressState)
    (hnested : NestedCalls {} calls)
    (hrun : progressCalls {} calls = .ok st) :
    (∀ report ∈ st.reports, 0 ≤ report.percentage ∧ report.percentage ≤ 100) ∧
    st.reports.IsChain Continues ∧
    (∀ call, NestedCall st call → CompleteCall st call → ∃ st', progressCall st call = .ok st') ∧
    ∀ pre name description substeps weight mid success before parent outer,
      calls = pre ++ .begin name description substeps weight :: (mid ++ [.end_ name success]) →
      progressCalls {} pre = .ok before → before.progress = parent :: outer →
      (∀ first rest during, mid = first ++ rest →
        progressCalls before (.begin name description substeps weight :: first) = .ok during →
        outer.length + 1 < during.progress.length) →
      st.progress.length = outer.length + 1 →
      st.progress = { parent with
        substepsDone := parent.substepsDone + weight
        percentDone := parent.percentDone + weight * parent.percentTotal /
          parent.substepsTotal } :: outer := by
  have hinv := progressCalls_inv progressInv_start hnested hrun
  refine ⟨hinv.reported.bounds, hinv.reported.chain, ?_, ?_⟩
  · intro call hcall hcomplete
    rcases progressCall_step hinv hcall with ⟨st', hst', -⟩ | ⟨hincomplete, -⟩
    · exact ⟨st', hst'⟩
    · exact absurd hcomplete hincomplete
  · intro pre name description substeps weight mid success before parent outer hcalls hbefore
      hprogress hdeep hdepth
    subst hcalls
    exact substep_contributes hnested hrun hbefore hprogress hdeep hdepth

/-- Two steps inside an operation, the second with percentages that go back and forth, and an
operation that fails. -/
def sampleCalls : List ProgressCall :=
  [.begin "test_1" "testing step 1" 2 1, .begin "test_1.1" "testing step 1.1" 1 1,
    .begin "test_1.1.1" "inner" 0 1,
    .end_ "test_1.1.1" true, .end_ "test_1.1" true, .begin "test_1.2" "testing step 1.2" 0 1,
      .set "test_1.2" 50,
    .set "test_1.2" 25, .inc "test_1.2", .end_ "test_1.2" false]

lemma exists_run {calls : List ProgressCall} {percentages : List Int}
    (h : (progressCalls {} calls).map (fun st => st.reports.map ProgressReport.percentage) =
      .ok percentages) :
    ∃ st, progressCalls {} calls = .ok st ∧ st.reports.map ProgressReport.percentage =
      percentages := by
  cases hrun : progressCalls {} calls with
  | error e =>
    rw [hrun] at h
    cases h
  | ok st =>
    rw [hrun] at h
    exact ⟨st, rfl, Except.ok.inj h⟩

theorem progressCalls_contract_sample :
    ∃ st, progressCalls {} sampleCalls = .ok st ∧ st.reports.map ProgressReport.percentage =
      [0, 0, 0, 50, 50, 50, 75, 75, 99] ∧ st.reports.IsChain Continues := by
  have hrun : (progressCalls {} sampleCalls).map
      (fun st => st.reports.map ProgressReport.percentage) =
      .ok [0, 0, 0, 50, 50, 50, 75, 75, 99] := by decide +kernel
  obtain ⟨st, hst, hreports⟩ := exists_run hrun
  exact ⟨st, hst, hreports, (progressCalls_contract sampleCalls st (by decide +kernel) hst).2.1⟩

/-- The next operation starts again at 0. -/
theorem next_operation_starts_again :
    ¬ ∀ (calls : List ProgressCall) (st : ProgressState), NestedCalls {} calls →
      progressCalls {} calls = .ok st →
      st.reports.IsChain (fun a b => a.percentage ≤ b.percentage) := by
  intro h
  have hrun : (progressCalls {} [.begin "a" "first" 0 1, .end_ "a" true,
      .begin "b" "second" 0 1]).map
      (fun st => st.reports.map ProgressReport.percentage) = .ok [0, 100, 0] := by decide +kernel
  obtain ⟨st, hst, hreports⟩ := exists_run hrun
  have hchain := List.isChain_map ProgressReport.percentage |>.mpr (h _ st (by decide +kernel) hst)
  rw [hreports] at hchain
  revert hchain
  decide

end Contributions

end RaucUpdate
