import Mathlib.Algebra.Group.Nat.Defs
import Mathlib.Data.List.Sort
import Mathlib.Order.Bounds.Defs

/-!
# Search in a sorted table

A table of positions is sorted by a key, and by the position itself where keys are the same. A key
is searched by bisection, from where the start of the run of equal keys is found by walking down.
-/

namespace RaucUpdate.Library

section Bisection

/-- Bisection with both bounds included. The entries are compared with what is searched. -/
def bisect (cmpAt : Nat → Ordering) : Nat → Nat → Nat → Option Nat
  | 0, _, _ => none
  | fuel + 1, left, right =>
    if left ≤ right then
      let middle := left + (right - left) / 2
      match cmpAt middle with
      | .eq => some middle
      | .lt => bisect cmpAt fuel (middle + 1) right
      | .gt => if 0 < middle then bisect cmpAt fuel left (middle - 1) else none
    else none

/-- Walks down from a place to the start of its run. At the bottom of the table the result is the
place that the walk started from. -/
def runStart (same : Nat → Bool) (found : Nat) : Nat → Nat
  | 0 => found
  | i + 1 => if same i then runStart same found i else i + 1

variable {cmpAt : Nat → Ordering}

lemma bisect_sound {fuel left right m : Nat} (h : bisect cmpAt fuel left right = some m) :
    cmpAt m = .eq ∧ left ≤ m ∧ m ≤ right := by
  induction fuel generalizing left right with
  | zero => simp [bisect] at h
  | succ fuel ih =>
    rw [bisect] at h
    by_cases hle : left ≤ right
    · rw [if_pos hle] at h
      dsimp only at h
      cases hc : cmpAt (left + (right - left) / 2) with
      | eq =>
        rw [hc] at h
        obtain rfl : left + (right - left) / 2 = m := by simpa using h
        exact ⟨hc, by omega, by omega⟩
      | lt =>
        rw [hc] at h
        obtain ⟨heq, hlow, hhigh⟩ := ih h
        exact ⟨heq, by omega, hhigh⟩
      | gt =>
        rw [hc] at h
        dsimp only at h
        by_cases hpos : 0 < left + (right - left) / 2
        · rw [if_pos hpos] at h
          obtain ⟨heq, hlow, hhigh⟩ := ih h
          exact ⟨heq, hlow, by omega⟩
        · rw [if_neg hpos] at h
          simp at h
    · rw [if_neg hle] at h
      simp at h

/-- The comparisons of a sorted table with one key: smaller entries, then equal ones, then larger
ones. -/
def Ascending (cmpAt : Nat → Ordering) (n : Nat) : Prop :=
  ∀ i j, i ≤ j → j < n → (cmpAt i = .gt → cmpAt j = .gt) ∧ (cmpAt j = .lt → cmpAt i = .lt)

lemma bisect_complete {n k : Nat} (hasc : Ascending cmpAt n) (fuel left right : Nat)
    (hright : right < n)
    (hfuel : right + 1 - left ≤ fuel) (hleft : left ≤ k) (hk : k ≤ right) (heq : cmpAt k = .eq) :
    ∃ m, bisect cmpAt fuel left right = some m := by
  induction fuel generalizing left right with
  | zero => omega
  | succ fuel ih =>
    rw [bisect, if_pos (by omega)]
    dsimp only
    cases hc : cmpAt (left + (right - left) / 2) with
    | eq => exact ⟨_, rfl⟩
    | lt =>
      have hlt : left + (right - left) / 2 < k := by
        by_contra hge
        have hlow := (hasc k (left + (right - left) / 2) (by omega) (by omega)).2 hc
        rw [heq] at hlow
        exact absurd hlow (by decide)
      exact ih _ _ hright (by omega) (by omega) hk
    | gt =>
      have hgt : k < left + (right - left) / 2 := by
        by_contra hge
        have hhigh := (hasc (left + (right - left) / 2) k (by omega) (by omega)).1 hc
        rw [heq] at hhigh
        exact absurd hhigh (by decide)
      dsimp only
      rw [if_pos (by omega)]
      exact ih _ _ (by omega) (by omega) hleft (by omega)

/-- The walk ends at an entry like the one it started from. -/
lemma runStart_same (same : Nat → Bool) {found i : Nat} (hfound : same found = true)
    (hi : i ≤ found)
    (hup : same i = true) : same (runStart same found i) = true ∧
      runStart same found i ≤ found := by
  induction i with
  | zero => exact ⟨hfound, le_refl _⟩
  | succ i ih =>
    rw [runStart]
    by_cases hs : same i = true
    · rw [if_pos hs]
      exact ih (by omega) hs
    · rw [if_neg hs]
      exact ⟨hup, hi⟩

/-- The start of a run that does not begin at the bottom of the table is found; at the bottom the
walk returns to where it started. -/
lemma runStart_run {same : Nat → Bool} {a b found : Nat}
    (hsame : ∀ i, i < b → (same i = true ↔ a ≤ i)) (hfound : found < b)
    {i : Nat} (hlow : a ≤ i) (hi : i ≤ found) :
      runStart same found i = if a = 0 then found else a := by
  induction i with
  | zero =>
    obtain rfl : a = 0 := by omega
    rfl
  | succ i ih =>
    rw [runStart]
    by_cases hstep : a ≤ i
    · rw [if_pos ((hsame i (by omega)).mpr hstep)]
      exact ih hstep (by omega)
    · obtain rfl : a = i + 1 := by omega
      have hnot : ¬same i = true := fun h => hstep ((hsame i (by omega)).mp h)
      rw [if_neg hnot, if_neg (by omega)]

/-- Whether the bisection lands at or behind a place, in a run at the bottom of the table: its
places are the halves of the table, down to the first one inside of the run. -/
def LandsFrom (count run least : Nat) : Prop :=
  ∃ k, least < (count + 1) / 2 ^ (k + 1) ∧ (count + 1) / 2 ^ (k + 1) ≤ run

lemma bisect_lands {count run fuel right m k : Nat} (hright : right + 2 = (count + 1) / 2 ^ k)
    (hrun : ∀ i ≤ right, cmpAt i = if i < run then .eq else .gt) (hpos : 0 < run)
    (hbefore : ∀ j, j < k → run < (count + 1) / 2 ^ (j + 1))
    (h : bisect cmpAt fuel 0 right = some m) (least : Nat) :
    least ≤ m ↔ LandsFrom count run least := by
  induction fuel generalizing right k with
  | zero => simp [bisect] at h
  | succ fuel ih =>
    have hhalf : (0 + (right - 0) / 2) + 1 = (count + 1) / 2 ^ (k + 1) := by
      rw [Nat.pow_succ, ← Nat.div_div_eq_div_mul, ← hright]
      omega
    rw [bisect, if_pos (by omega)] at h
    dsimp only at h
    rw [hrun _ (by omega)] at h
    by_cases hin : 0 + (right - 0) / 2 < run
    · rw [if_pos hin] at h
      obtain rfl : 0 + (right - 0) / 2 = m := by simpa using h
      constructor
      · intro hle
        exact ⟨k, by omega, by omega⟩
      · rintro ⟨j, hlow, hhigh⟩
        by_cases hj : j < k
        · have := hbefore j hj
          omega
        · have hmono : (count + 1) / 2 ^ (j + 1) ≤ (count + 1) / 2 ^ (k + 1) :=
            Nat.div_le_div_left (Nat.pow_le_pow_right (by omega) (by omega)) (Nat.two_pow_pos _)
          omega
    · rw [if_neg hin] at h
      dsimp only at h
      rw [if_pos (by omega)] at h
      apply ih (k := k + 1) (by omega) (fun i hi => hrun i (by omega)) _ h
      intro j hj
      by_cases hlast : j = k
      · subst hlast
        omega
      · exact hbefore j (by omega)

/-- The bisection of a table that can end: there is nothing behind the table, and no result without
an end of the loop. -/
def bisectIn (cmpAt : Nat → Option Ordering) : Nat → Nat → Nat → Option (Option Nat)
  | 0, _, _ => none
  | fuel + 1, left, right =>
    if left ≤ right then
      let middle := left + (right - left) / 2
      match cmpAt middle with
      | none => none
      | some .eq => some (some middle)
      | some .lt => bisectIn cmpAt fuel (middle + 1) right
      | some .gt => if 0 < middle then bisectIn cmpAt fuel left (middle - 1) else some none
    else some none

def runStartIn (same : Nat → Option Bool) (found : Nat) : Nat → Option Nat
  | 0 => some found
  | i + 1 => do
    if ← same i then runStartIn same found i else some (i + 1)

lemma bisectIn_eq {cmpIn : Nat → Option Ordering} {n : Nat}
    (hin : ∀ i < n, cmpIn i = some (cmpAt i))
    (fuel left right : Nat) (hright : right < n) (hfuel : right + 1 - left ≤ fuel) :
    bisectIn cmpIn (fuel + 1) left right = some (bisect cmpAt fuel left right) := by
  induction fuel generalizing left right with
  | zero =>
    rw [bisectIn, if_neg (by omega)]
    rfl
  | succ fuel ih =>
    rw [bisectIn, bisect]
    by_cases hle : left ≤ right
    · rw [if_pos hle, if_pos hle]
      dsimp only
      rw [hin _ (by omega)]
      cases cmpAt (left + (right - left) / 2) with
      | eq => rfl
      | lt => exact ih _ _ hright (by omega)
      | gt =>
        dsimp only
        by_cases hpos : 0 < left + (right - left) / 2
        · rw [if_pos hpos, if_pos hpos]
          exact ih _ _ (by omega) (by omega)
        · rw [if_neg hpos, if_neg hpos]
    · rw [if_neg hle, if_neg hle]

lemma runStartIn_eq {sameIn : Nat → Option Bool} {same : Nat → Bool} {found : Nat} {i : Nat}
    (hin : ∀ j < i, sameIn j = some (same j)) :
      runStartIn sameIn found i = some (runStart same found i) := by
  induction i with
  | zero => rfl
  | succ i ih =>
    rw [runStartIn, runStart, hin i (by omega)]
    cases hsame : same i with
    | true => exact ih (fun j hj => hin j (by omega))
    | false => rfl

end Bisection

section Positions

variable {κ : Type} [Ord κ]

/-- The order of the positions: by their keys, and the positions of one key as they are. -/
def positionLe (key : Nat → κ) (a b : Nat) : Bool :=
  ((compare (key a) (key b)).then (compare a b)).isLE

/-- The positions of a table, sorted by their keys. -/
def sortPositions (key : Nat → κ) (n : Nat) : List Nat :=
  (List.range n).insertionSort (fun a b => positionLe key a b = true)

variable {key : Nat → κ} {n : Nat}

lemma length_sortPositions : (sortPositions key n).length = n := by
  unfold sortPositions
  rw [List.length_insertionSort, List.length_range]

lemma mem_sortPositions {i : Nat} : i ∈ sortPositions key n ↔ i < n := by
  unfold sortPositions
  rw [List.mem_insertionSort, List.mem_range]

lemma positionLe_key {a b : Nat} (h : positionLe key a b = true) :
    (compare (key a) (key b)).isLE = true := by
  unfold positionLe at h
  cases hc : compare (key a) (key b) with
  | lt => rfl
  | eq => rfl
  | gt => simp [hc] at h

lemma positionLe_of_lt {a b : Nat} (h : compare (key a) (key b) = .lt) :
    positionLe key a b = true := by
  unfold positionLe
  rw [h]
  rfl

variable [Std.TransOrd κ]

lemma positionLe_total (key : Nat → κ) : Std.Total (fun a b => positionLe key a b = true) := by
  constructor
  intro a b
  unfold positionLe
  have hswap : compare (key a) (key b) = (compare (key b) (key a)).swap := Std.OrientedCmp.eq_swap
  have hnat : compare a b = (compare b a).swap := Std.OrientedCmp.eq_swap
  rw [hswap, hnat]
  cases compare (key b) (key a) with
  | lt => exact .inr rfl
  | gt => exact .inl rfl
  | eq =>
    cases compare b a with
    | lt => exact .inr rfl
    | eq => exact .inl rfl
    | gt => exact .inl rfl

lemma positionLe_trans (key : Nat → κ) : IsTrans Nat (fun a b => positionLe key a b = true) := by
  constructor
  intro a b c hab hbc
  have hbckeys := positionLe_key hbc
  have hkeys := Std.TransOrd.isLE_trans (positionLe_key hab) hbckeys
  unfold positionLe at hab hbc ⊢
  cases hac : compare (key a) (key c) with
  | lt => rfl
  | gt => simp [hac] at hkeys
  | eq =>
    have hab' : compare (key a) (key b) = .eq := by
      cases h : compare (key a) (key b) with
      | eq => rfl
      | gt => simp [h] at hab
      | lt =>
        have hlt := Std.TransCmp.lt_of_lt_of_isLE h hbckeys
        rw [hac] at hlt
        exact absurd hlt (by decide)
    have hbc' : compare (key b) (key c) = .eq := by
      cases h : compare (key b) (key c) with
      | eq => rfl
      | gt => simp [h] at hbc
      | lt =>
        have hlt := Std.TransCmp.lt_of_eq_of_lt hab' h
        rw [hac] at hlt
        exact absurd hlt (by decide)
    rw [hab'] at hab
    rw [hbc'] at hbc
    exact Std.TransOrd.isLE_trans (a := a) (b := b) (c := c) hab hbc

lemma pairwise_sortPositions (key : Nat → κ) (n : Nat) :
    (sortPositions key n).Pairwise (fun a b => positionLe key a b = true) := by
  have htotal := positionLe_total key
  have htrans := positionLe_trans key
  exact List.pairwise_insertionSort _ _

/-- Compared with one key, the entries of the sorted table ascend. -/
lemma ascending_sortPositions (key : Nat → κ) (n : Nat) (x : κ) :
    Ascending (fun i => compare (key ((sortPositions key n).getD i 0)) x) n := by
  have hle : ∀ i j, i ≤ j → j < n → (compare (key ((sortPositions key n).getD i 0))
      (key ((sortPositions key n).getD j 0))).isLE = true := by
    intro i j hij hj
    have hlen : (sortPositions key n).length = n := length_sortPositions
    rw [List.getD_eq_getElem?_getD, List.getD_eq_getElem?_getD, List.getElem?_eq_getElem (by omega),
      List.getElem?_eq_getElem (by omega), Option.getD_some, Option.getD_some]
    by_cases heq : i = j
    · subst heq
      simp only [Std.compare_self]
      rfl
    · apply positionLe_key
      exact List.pairwise_iff_getElem.mp (pairwise_sortPositions key n) i j (by omega)
        (by omega) (by omega)
  intro i j hij hj
  have hbetween := hle i j hij hj
  refine ⟨?_, ?_⟩
  · intro hgt
    have hgt' := Std.OrientedCmp.lt_of_gt hgt
    have hlt := Std.TransCmp.lt_of_lt_of_isLE hgt' hbetween
    exact Std.OrientedCmp.gt_of_lt hlt
  · intro hlt
    exact Std.TransCmp.lt_of_isLE_of_lt hbetween hlt

/-- The keys are in order, and so are the positions of one key. -/
lemma positionLe_antisymm [Std.LawfulEqOrd κ] {a b : Nat} (hab : positionLe key a b = true)
    (hba : positionLe key b a = true) :
    a = b := by
  have hswap : compare (key b) (key a) = (compare (key a) (key b)).swap := Std.OrientedCmp.eq_swap
  have hnat : compare b a = (compare a b).swap := Std.OrientedCmp.eq_swap
  unfold positionLe at hab hba
  rw [hswap, hnat] at hba
  cases hkeys : compare (key a) (key b) with
  | lt => simp [hkeys] at hba
  | gt => simp [hkeys] at hab
  | eq =>
    cases horder : compare a b with
    | lt => simp [hkeys, horder] at hba
    | gt => simp [hkeys, horder] at hab
    | eq => exact Std.LawfulEqOrd.eq_of_compare horder

/-- The sorted table depends on the keys of its positions only. -/
lemma sortPositions_congr [Std.LawfulEqOrd κ] {key' : Nat → κ} (h : ∀ i < n, key i = key' i) :
    sortPositions key n = sortPositions key' n := by
  refine List.Perm.eq_of_pairwise ?_ ?_ (pairwise_sortPositions key' n) ?_
  · intro a b _ _ hab hba
    exact positionLe_antisymm hab hba
  · apply (pairwise_sortPositions key n).imp_of_mem
    intro a b ha hb hab
    unfold positionLe at hab ⊢
    rw [← h a (mem_sortPositions.mp ha), ← h b (mem_sortPositions.mp hb)]
    exact hab
  · exact (List.perm_insertionSort _ _).trans (List.perm_insertionSort _ _).symm

lemma filter_perm_parts {α : Type} (cmp : α → Ordering) (l : List α) :
    (l.filter (fun i => cmp i == .lt) ++ (l.filter (fun i => cmp i == .eq) ++
      l.filter (fun i => cmp i == .gt))).Perm
      l := by
  have hrest :=
    List.filter_append_perm (fun i => cmp i == .eq) (l.filter (fun i => !(cmp i == .lt)))
  rw [List.filter_filter, List.filter_filter] at hrest
  have heq : ∀ i, ((cmp i == .eq) && !(cmp i == .lt)) = (cmp i == .eq) := by
    intro i
    cases cmp i <;> rfl
  have hgt : ∀ i, ((!(cmp i == .eq)) && !(cmp i == .lt)) = (cmp i == .gt) := by
    intro i
    cases cmp i <;> rfl
  simp only [heq, hgt] at hrest
  exact (List.Perm.append_left _ hrest).trans (List.filter_append_perm _ l)

/-- The sorted table in three parts: what is below a key, the positions of the key in order, and
what is above it. -/
lemma sortPositions_parts [Std.LawfulEqOrd κ] (key : Nat → κ) (n : Nat) (x : κ) :
    ∃ below above, sortPositions key n = below ++
      ((List.range n).filter (fun i => compare (key i) x == .eq) ++ above) ∧
      (∀ i ∈ below, compare (key i) x = .lt) ∧ (∀ i ∈ above, compare (key i) x = .gt) ∧
      below.length = (List.range n).countP (fun i => compare (key i) x == .lt) := by
  let cmp : Nat → Ordering := fun i => compare (key i) x
  have hperm : (sortPositions key n).Perm (List.range n) := List.perm_insertionSort _ _
  have hsorted := pairwise_sortPositions key n
  refine ⟨(sortPositions key n).filter (fun i => cmp i == .lt),
    (sortPositions key n).filter (fun i => cmp i == .gt),
    ?_, ?_, ?_, ?_⟩
  · refine List.Perm.eq_of_pairwise ?_ hsorted ?_ ?_
    · intro a b _ _ hab hba
      exact positionLe_antisymm hab hba
    · have hmid : ∀ a ∈ (List.range n).filter (fun i => cmp i == .eq), compare (key a) x = .eq := by
        intro a ha
        exact beq_iff_eq.mp (List.mem_filter.mp ha).2
      have hlow : ∀ a ∈ (sortPositions key n).filter (fun i => cmp i == .lt),
          compare (key a) x = .lt := by
        intro a ha
        exact beq_iff_eq.mp (List.mem_filter.mp ha).2
      have hhigh : ∀ a ∈ (sortPositions key n).filter (fun i => cmp i == .gt),
          compare x (key a) = .lt := by
        intro a ha
        exact Std.OrientedCmp.lt_of_gt (beq_iff_eq.mp (List.mem_filter.mp ha).2)
      rw [List.pairwise_append, List.pairwise_append]
      refine ⟨hsorted.filter _, ⟨?_, hsorted.filter _, ?_⟩, ?_⟩
      · apply (List.pairwise_lt_range.filter _).imp_of_mem
        intro a b ha hb hab
        have hkeys : key a = key b := (Std.LawfulEqOrd.eq_of_compare (hmid a ha)).trans
          (Std.LawfulEqOrd.eq_of_compare (hmid b hb)).symm
        unfold positionLe
        rw [hkeys, Std.compare_self, Nat.compare_eq_lt.mpr hab]
        rfl
      · intro a ha b hb
        exact positionLe_of_lt (Std.TransCmp.lt_of_eq_of_lt (hmid a ha) (hhigh b hb))
      · intro a ha b hb
        rcases List.mem_append.mp hb with hb | hb
        · exact positionLe_of_lt (Std.TransCmp.lt_of_lt_of_eq (hlow a ha)
            (Std.OrientedCmp.eq_symm (hmid b hb)))
        · exact positionLe_of_lt (Std.TransCmp.lt_trans (hlow a ha) (hhigh b hb))
    · apply (filter_perm_parts cmp (sortPositions key n)).symm.trans
      exact List.Perm.append_left _ (List.Perm.append_right _ (hperm.filter _))
  · intro i hi
    simpa using (List.mem_filter.mp hi).2
  · intro i hi
    simpa using (List.mem_filter.mp hi).2
  · rw [← List.countP_eq_length_filter]
    exact hperm.countP_eq _

end Positions

section Ranks

/-- How many numbers of a list are below a bound. -/
def rank (l : List Nat) (x : Nat) : Nat := l.countP (· < x)

variable {l : List Nat}

lemma rank_le_length (l : List Nat) (x : Nat) : rank l x ≤ l.length := List.countP_le_length

lemma rank_mono (l : List Nat) {x y : Nat} (hxy : x ≤ y) : rank l x ≤ rank l y := by
  apply List.countP_mono_left
  intro a _ ha
  simp only [decide_eq_true_eq] at ha ⊢
  omega

lemma rank_cons_of_lt {a x : Nat} (h : a < x) : rank (a :: l) x = rank l x + 1 :=
  List.countP_cons_of_pos (by simpa using h)

lemma rank_eq_zero {x : Nat} (h : ∀ a ∈ l, x ≤ a) : rank l x = 0 := by
  unfold rank
  rw [List.countP_eq_zero]
  intro a ha
  have := h a ha
  simp only [decide_eq_true_eq]
  omega

lemma rank_cons_of_le {a x : Nat} (hasc : (a :: l).Pairwise (· < ·)) (h : x ≤ a) :
    rank (a :: l) x = 0 := by
  apply rank_eq_zero
  intro b hb
  rcases List.mem_cons.mp hb with rfl | hb
  · exact h
  · have := (List.pairwise_cons.mp hasc).1 b hb
    omega

lemma rank_take (hasc : l.Pairwise (· < ·)) (t x : Nat) : rank (l.take t) x = min t (rank l x) := by
  induction l generalizing t with
  | nil => simp [rank]
  | cons a l ih =>
    cases t with
    | zero => simp [rank]
    | succ t =>
      rw [List.take_succ_cons]
      by_cases ha : a < x
      · rw [rank_cons_of_lt ha, rank_cons_of_lt ha, ih (List.pairwise_cons.mp hasc).2]
        omega
      · rw [rank_cons_of_le hasc (by omega), Nat.min_zero]
        apply rank_cons_of_le _ (by omega)
        exact hasc.sublist (List.Sublist.cons_cons a (List.take_sublist t l))

lemma rank_drop (hasc : l.Pairwise (· < ·)) (s x : Nat) : rank (l.drop s) x = rank l x - s := by
  induction l generalizing s with
  | nil => simp [rank]
  | cons a l ih =>
    cases s with
    | zero => rfl
    | succ s =>
      rw [List.drop_succ_cons, ih (List.pairwise_cons.mp hasc).2]
      by_cases ha : a < x
      · rw [rank_cons_of_lt ha]
        omega
      · rw [rank_cons_of_le hasc (by omega)]
        have hrest : rank l x = 0 := by
          apply rank_eq_zero
          intro b hb
          have := (List.pairwise_cons.mp hasc).1 b hb
          omega
        omega

/-- In an ascending list the first number that reaches a bound stands at its rank. -/
lemma find?_eq_getElem?_rank (hasc : l.Pairwise (· < ·)) (x : Nat) :
    l.find? (x ≤ ·) = l[rank l x]? := by
  induction l with
  | nil => rfl
  | cons a l ih =>
    by_cases ha : a < x
    · rw [rank_cons_of_lt ha, List.getElem?_cons_succ, List.find?_cons_of_neg (by simpa using ha)]
      exact ih (List.pairwise_cons.mp hasc).2
    · rw [rank_cons_of_le hasc (by omega), List.find?_cons_of_pos (by simpa using ha)]
      rfl

lemma getElem?_filter_rank (hasc : l.Pairwise (· < ·)) (j x : Nat) :
    l[j]?.filter (· < x) = if j < rank l x then l[j]? else none := by
  induction l generalizing j with
  | nil => simp
  | cons a l ih =>
    by_cases ha : a < x
    · rw [rank_cons_of_lt ha]
      cases j with
      | zero => simp [ha]
      | succ j =>
        rw [List.getElem?_cons_succ, ih (List.pairwise_cons.mp hasc).2]
        simp only [Nat.add_lt_add_iff_right]
    · rw [rank_cons_of_le hasc (by omega), if_neg (by omega)]
      cases hj : (a :: l)[j]? with
      | none => rfl
      | some b =>
        have hb : b ∈ a :: l := List.mem_of_getElem? hj
        have hle : x ≤ b := by
          rcases List.mem_cons.mp hb with rfl | hb
          · omega
          · have := (List.pairwise_cons.mp hasc).1 b hb
            omega
        simpa using hle

lemma find?_least (hasc : l.Pairwise (· < ·)) {x c i : Nat} (h : l.find? (x ≤ ·) = some c)
    (hi : i ∈ l) (hx : x ≤ i) :
    c ≤ i := by
  induction l with
  | nil => simp at hi
  | cons a l ih =>
    by_cases ha : a < x
    · rw [List.find?_cons_of_neg (by simpa using ha)] at h
      rcases List.mem_cons.mp hi with rfl | hi
      · omega
      · exact ih (List.pairwise_cons.mp hasc).2 h hi
    · rw [List.find?_cons_of_pos (by simpa using ha)] at h
      obtain rfl : a = c := by simpa using h
      rcases List.mem_cons.mp hi with rfl | hi
      · exact le_refl _
      · exact Nat.le_of_lt ((List.pairwise_cons.mp hasc).1 i hi)

/-- The least number of an ascending list between two bounds. -/
lemma isLeast_iff_rank (hasc : l.Pairwise (· < ·)) (x y c : Nat) :
    IsLeast {i | i ∈ l ∧ x ≤ i ∧ i < y} c ↔ rank l x < rank l y ∧ l[rank l x]? = some c := by
  have hfind := find?_eq_getElem?_rank hasc x
  have hfilter := getElem?_filter_rank hasc (rank l x) y
  constructor
  · rintro ⟨⟨hmem, hx, hy⟩, hleast⟩
    obtain ⟨c', hc'⟩ : ∃ c', l.find? (x ≤ ·) = some c' := by
      rw [← Option.isSome_iff_exists, List.find?_isSome]
      exact ⟨c, hmem, by simpa using hx⟩
    have hle := find?_least hasc hc' hmem hx
    have hge := hleast ⟨List.mem_of_find?_eq_some hc', by simpa using List.find?_some hc', by omega⟩
    obtain rfl : c' = c := by omega
    rw [← hfind, hc', Option.filter_some] at hfilter
    rw [if_pos (by simpa using hy)] at hfilter
    split_ifs at hfilter with hrank
    exact ⟨hrank, by rw [← hfind, hc']⟩
  · rintro ⟨hrank, hat⟩
    rw [if_pos hrank, hat, Option.filter_some] at hfilter
    have hy : c < y := by
      by_contra hge
      rw [if_neg (by simpa using hge)] at hfilter
      simp at hfilter
    rw [hat] at hfind
    refine ⟨⟨List.mem_of_find?_eq_some hfind, by simpa using List.find?_some hfind, hy⟩, ?_⟩
    rintro i ⟨hi, hix, -⟩
    exact find?_least hasc hfind hi hix

end Ranks

end RaucUpdate.Library
