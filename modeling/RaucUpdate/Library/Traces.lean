import Mathlib.Data.List.Basic

/-!
# Traces

A trace grows at its end. `Justified` says of every event of a trace that what came before allows
it, and a trace is justified step by step. `Answered` says that every event of a kind was followed
by its answer.
-/

namespace RaucUpdate.Library

variable {ε : Type}

def Justified (J : List ε → ε → Prop) (trace : List ε) : Prop :=
  ∀ pre e post, trace = pre ++ e :: post → J pre e

/-- Every event that calls for an answer is followed by one. -/
def Answered (A : ε → ε → Prop) (trace : List ε) : Prop :=
  ∀ pre e post, trace = pre ++ e :: post → ∀ a, A e a → a ∈ post

/-- An event of a trace that has grown by one is the new one or was there before. -/
lemma snoc_eq_append_cons {t pre post : List ε} {e x : ε} (h : t ++ [x] = pre ++ e :: post) :
    (t = pre ∧ x = e ∧ post = []) ∨ ∃ rest, post = rest ++ [x] ∧ t = pre ++ e :: rest := by
  rcases List.append_eq_append_iff.mp h with ⟨extra, hpre, hx⟩ | ⟨later, ht, hpost⟩
  · cases extra with
    | nil => simp_all
    | cons y ys => simp at hx
  · cases later with
    | nil => simp_all
    | cons y later =>
      obtain ⟨rfl, rfl⟩ := List.cons.inj hpost
      exact .inr ⟨later, rfl, ht⟩

lemma justified_nil (J : List ε → ε → Prop) : Justified J [] := by
  intro pre e post h
  simp at h

lemma justified_snoc {J : List ε → ε → Prop} {t : List ε} {x : ε} (h : Justified J t) (hx : J t x) :
    Justified J (t ++ [x]) := by
  intro pre e post hsplit
  rcases snoc_eq_append_cons hsplit with ⟨rfl, rfl, -⟩ | ⟨rest, -, ht⟩
  · exact hx
  · exact h pre e rest ht

lemma answered_nil (A : ε → ε → Prop) : Answered A [] := by
  intro pre e post h
  simp at h

lemma answered_snoc {A : ε → ε → Prop} {t : List ε} {x : ε} (h : Answered A t) (hx : ∀ a, ¬ A x a) :
    Answered A (t ++ [x]) := by
  intro pre e post hsplit a ha
  rcases snoc_eq_append_cons hsplit with ⟨-, rfl, -⟩ | ⟨rest, rfl, ht⟩
  · exact absurd ha (hx a)
  · exact List.mem_append_left _ (h pre e rest ht a ha)

/-- An event and its only answer. -/
lemma answered_pair {A : ε → ε → Prop} {t : List ε} {x y : ε} (h : Answered A t)
    (hx : ∀ a, A x a → a = y)
    (hy : ∀ a, ¬ A y a) : Answered A (t ++ [x] ++ [y]) := by
  intro pre e post hsplit a ha
  rcases snoc_eq_append_cons hsplit with ⟨-, rfl, -⟩ | ⟨rest, rfl, ht⟩
  · exact absurd ha (hy a)
  · rcases snoc_eq_append_cons ht with ⟨-, rfl, rfl⟩ | ⟨rest', rfl, ht'⟩
    · simp [hx a ha]
    · have hmem := h pre e rest' ht' a ha
      simp [hmem]

end RaucUpdate.Library
