import Mathlib.Data.List.Lex
import Mathlib.Data.Prod.Lex
import Mathlib.Data.String.Basic
import Mathlib.Data.Sum.Order
import Mathlib.Order.WithBot
import RaucUpdate.Library.Decimals

/-!
# Semantic versions

The grammar of SemVer 2.0.0 and its precedence. A version is ranked in a linear order, in which the
absence of a pre-release comes last and a number comes before every other identifier.
-/

namespace RaucUpdate.Library

section Differences

variable {α κ : Type} [DecidableEq α] [LinearOrder κ]

/-- The first place at which two lists have different elements. -/
def firstDifference : List α → List α → Option (α × α)
  | a :: as, b :: bs => if a = b then firstDifference as bs else some (a, b)
  | _, _ => none

lemma firstDifference_mem {as bs : List α} {a b : α} (h : firstDifference as bs = some (a, b)) :
    a ∈ as ∧ b ∈ bs ∧ a ≠ b := by
  induction as generalizing bs with
  | nil => simp [firstDifference] at h
  | cons x as ih =>
    cases bs with
    | nil => simp [firstDifference] at h
    | cons y bs =>
      unfold firstDifference at h
      split_ifs at h with heq
      · obtain ⟨ha, hb, hne⟩ := ih h
        exact ⟨by simp [ha], by simp [hb], hne⟩
      · obtain ⟨rfl, rfl⟩ := Prod.mk.inj (Option.some.inj h)
        exact ⟨by simp, by simp, heq⟩

lemma cons_le_cons_iff {x y : κ} {xs ys : List κ} : x :: xs ≤ y :: ys ↔ x < y ∨ x = y ∧
    xs ≤ ys := by
  have hlt : x :: xs < y :: ys ↔ x < y ∨ x = y ∧ xs < ys := List.cons_lt_cons_iff
  have heq : x :: xs = y :: ys ↔ x = y ∧ xs = ys := List.cons_eq_cons
  rw [le_iff_lt_or_eq, hlt, heq, le_iff_lt_or_eq]
  tauto

lemma nil_le (xs : List κ) : [] ≤ xs := by
  cases xs with
  | nil => exact le_refl _
  | cons x xs => exact le_of_lt List.Lex.nil

/-- The first difference decides the order of the keys. -/
lemma map_le_map_of_difference {key : α → κ} {as bs : List α} {a b : α}
    (h : firstDifference as bs = some (a, b)) (hne : key a ≠ key b) :
    as.map key ≤ bs.map key ↔ key a < key b := by
  induction as generalizing bs with
  | nil => simp [firstDifference] at h
  | cons x as ih =>
    cases bs with
    | nil => simp [firstDifference] at h
    | cons y bs =>
      unfold firstDifference at h
      rw [List.map_cons, List.map_cons, cons_le_cons_iff]
      split_ifs at h with heq
      · subst heq
        rw [ih h]
        simp
      · obtain ⟨rfl, rfl⟩ := Prod.mk.inj (Option.some.inj h)
        simp [hne]

lemma map_le_map_of_no_difference {as bs : List α} (key : α → κ)
    (h : firstDifference as bs = none) :
    as.map key ≤ bs.map key ↔ as.length ≤ bs.length := by
  induction as generalizing bs with
  | nil => simpa using nil_le _
  | cons x as ih =>
    cases bs with
    | nil =>
      have hlt : [] < key x :: as.map key := List.Lex.nil
      simp [hlt]
    | cons y bs =>
      unfold firstDifference at h
      split_ifs at h with heq
      subst heq
      rw [List.map_cons, List.map_cons, cons_le_cons_iff, ih h]
      simp

end Differences

section Identifiers

def isIdentifierChar (c : Char) : Bool := c.isAlphanum || c == '-'

def IsBuildIdentifier (s : String) : Prop := s ≠ "" ∧ ∀ c ∈ s.toList, isIdentifierChar c = true

/-- A number has no zero in front. -/
def IsPreReleaseIdentifier (s : String) : Prop :=
  IsBuildIdentifier s ∧ (AllDigits s.toList → s = "0" ∨ s.toList.head? ≠ some '0')

/-- Numbers are compared by their value, and other identifiers as texts. -/
def identifierRank (s : String) : Nat ⊕ₗ String :=
  if AllDigits s.toList then toLex (.inl (decimalValue s.toList)) else toLex (.inr s)

lemma isIdentifierChar_ne {c : Char} (h : isIdentifierChar c = true) : c ≠ '.' ∧ c ≠ '+' := by
  constructor
  · rintro rfl
    exact absurd h (by decide)
  · rintro rfl
    exact absurd h (by decide)

/-- The value of a number determines how long it is. -/
lemma length_le_of_value_le {s t : String} (hs : IsPreReleaseIdentifier s)
    (hsd : AllDigits s.toList)
    (ht : AllDigits t.toList) (htne : t ≠ "") (h : decimalValue s.toList ≤ decimalValue t.toList) :
    s.toList.length ≤ t.toList.length := by
  have htpos : 0 < t.toList.length := by
    rw [List.length_pos_iff]
    simpa using htne
  rcases hs.2 hsd with rfl | hhead
  · have hone : "0".toList.length = 1 := rfl
    omega
  · cases hchars : s.toList with
    | nil => simp
    | cons c rest =>
      rw [hchars] at hsd hhead h
      have hlow := le_decimalValue (s := rest) (hsd c (by simp)) (by simpa using hhead)
      have hhigh := decimalValue_lt ht
      have hpow : 10 ^ rest.length < 10 ^ t.toList.length := by omega
      have hlen := (Nat.pow_lt_pow_iff_right (by omega)).mp hpow
      rw [List.length_cons]
      omega

lemma value_lt_of_length_lt {s t : String} (hs : AllDigits s.toList) (ht : IsPreReleaseIdentifier t)
    (htd : AllDigits t.toList) (hsne : s ≠ "") (h : s.length < t.length) :
    decimalValue s.toList < decimalValue t.toList := by
  by_contra hle
  have hlen := length_le_of_value_le ht htd hs hsne (by omega)
  rw [String.length_toList, String.length_toList] at hlen
  omega

lemma eq_of_value_eq {s t : String} (hs : IsPreReleaseIdentifier s) (ht : IsPreReleaseIdentifier t)
    (hsd : AllDigits s.toList) (htd : AllDigits t.toList)
    (h : decimalValue s.toList = decimalValue t.toList) :
    s = t := by
  have hlen : s.toList.length = t.toList.length :=
    Nat.le_antisymm (length_le_of_value_le hs hsd htd ht.1.1 h.le)
      (length_le_of_value_le ht htd hsd hs.1.1 h.ge)
  have hst := (decimalValue_lt_iff hsd htd hlen).not.mp (by omega)
  have hts := (decimalValue_lt_iff htd hsd hlen.symm).not.mp (by omega)
  exact String.toList_inj.mp (le_antisymm (not_lt.mp hts) (not_lt.mp hst))

/-- Different identifiers never have the same rank. -/
lemma identifierRank_ne {s t : String} (hs : IsPreReleaseIdentifier s)
    (ht : IsPreReleaseIdentifier t) (h : s ≠ t) :
    identifierRank s ≠ identifierRank t := by
  intro hrank
  unfold identifierRank at hrank
  split_ifs at hrank with hsd htd
  · exact h (eq_of_value_eq hs ht hsd htd (by simpa using hrank))
  · simp at hrank
  · simp at hrank
  · exact h (by simpa using hrank)

end Identifiers

section Versions

structure Version where
  major : Nat
  minor : Nat
  patch : Nat
  preRelease : List String := []
  build : List String := []
  preRelease_valid : ∀ s ∈ preRelease, IsPreReleaseIdentifier s := by simp
  build_valid : ∀ s ∈ build, IsBuildIdentifier s := by simp

/-- A part of a version behind the character that introduces it. -/
def versionPart (mark : Char) (identifiers : List String) : String :=
  if identifiers = [] then "" else String.singleton mark ++ joinFields '.' identifiers

def Version.core (v : Version) : String :=
  joinFields '.' [formatNat 10 v.major, formatNat 10 v.minor, formatNat 10 v.patch]

/-- The text of a version up to its build. -/
def Version.front (v : Version) : String := v.core ++ versionPart '-' v.preRelease

/-- The valid version strings are the texts of versions. -/
def Version.text (v : Version) : String := v.front ++ versionPart '+' v.build

abbrev Precedence : Type := (Nat ×ₗ Nat ×ₗ Nat) ×ₗ WithTop (List (Nat ⊕ₗ String))

def coreRank (major minor patch : Nat) : Nat ×ₗ Nat ×ₗ Nat := toLex (major, toLex (minor, patch))

/-- The rank of a version that follows from ranks of the identifiers. -/
def Version.rankBy (rank : String → Nat ⊕ₗ String) (v : Version) : Precedence :=
  toLex (coreRank v.major v.minor v.patch, if v.preRelease =
    [] then ⊤ else ↑(v.preRelease.map rank))

def Version.precedence (v : Version) : Precedence := v.rankBy identifierRank

/-- Two rankings of the identifiers order two versions alike, unless the cores are the same and the
rankings disagree about the first identifiers that differ. -/
lemma rankBy_le_iff_iff (rank rank' : String → Nat ⊕ₗ String) (a b : Version)
    (hrank : ∀ s ∈ a.preRelease, ∀ t ∈ b.preRelease, s ≠ t → rank s ≠ rank t)
    (hrank' : ∀ s ∈ a.preRelease, ∀ t ∈ b.preRelease, s ≠ t → rank' s ≠ rank' t) :
    (a.rankBy rank ≤ b.rankBy rank ↔ a.rankBy rank' ≤ b.rankBy rank') ↔
      (coreRank a.major a.minor a.patch = coreRank b.major b.minor b.patch → ∀ s t,
        firstDifference a.preRelease b.preRelease = some (s, t) →
          (rank s < rank t ↔ rank' s < rank' t)) := by
  unfold Version.rankBy
  rw [Prod.Lex.toLex_le_toLex, Prod.Lex.toLex_le_toLex]
  by_cases hcore : coreRank a.major a.minor a.patch = coreRank b.major b.minor b.patch
  · simp only [hcore, lt_self_iff_false, false_or, true_and, true_implies]
    cases hdiff : firstDifference a.preRelease b.preRelease with
    | none =>
      simp only [reduceCtorEq, false_implies, implies_true, iff_true]
      by_cases ha : a.preRelease = []
      · by_cases hb : b.preRelease = []
        · simp [ha, hb]
        · simp [ha, hb]
      · by_cases hb : b.preRelease = []
        · simp [ha, hb]
        · rw [if_neg ha, if_neg hb, if_neg ha, if_neg hb, WithTop.coe_le_coe, WithTop.coe_le_coe,
            map_le_map_of_no_difference rank hdiff, map_le_map_of_no_difference rank' hdiff]
    | some pair =>
      obtain ⟨s, t⟩ := pair
      obtain ⟨hs, ht, hne⟩ := firstDifference_mem hdiff
      have ha : a.preRelease ≠ [] := List.ne_nil_of_mem hs
      have hb : b.preRelease ≠ [] := List.ne_nil_of_mem ht
      rw [if_neg ha, if_neg hb, if_neg ha, if_neg hb, WithTop.coe_le_coe, WithTop.coe_le_coe,
        map_le_map_of_difference hdiff (hrank s hs t ht hne),
          map_le_map_of_difference hdiff (hrank' s hs t ht hne)]
      constructor
      · intro h s' t' heq
        obtain ⟨rfl, rfl⟩ := Prod.mk.inj (Option.some.inj heq)
        exact h
      · intro h
        exact h s t rfl
  · simp [hcore]

end Versions

end RaucUpdate.Library
