import Mathlib.Logic.Basic

/-!
# Parent links

Chains of links by the number of steps, the root a chain ends in, and links that were replaced by
links to the root.
-/

namespace RaucUpdate.Library

variable {α : Type} (next : α → Option α)

/-- `n` links lead from `x` to `y`. -/
inductive Climbs : Nat → α → α → Prop where
  | here (x : α) : Climbs 0 x x
  | up {n : Nat} {x y z : α} (hnext : next x = some y) (hrest : Climbs n y z) : Climbs (n + 1) x z

/-- The chain of `x` ends in `r` after `n` links. -/
def RootAt (n : Nat) (x r : α) : Prop := Climbs next n x r ∧ next r = none

/-- The chain of `x` runs into a cycle. -/
def Cyclic (x : α) : Prop := ∃ m n y, Climbs next m x y ∧ Climbs next (n + 1) y y

variable {next}

section Chains

lemma Climbs.trans {m n : Nat} {x y z : α} (h : Climbs next m x y) (h' : Climbs next n y z) :
    Climbs next (n + m) x z := by
  induction h with
  | here x => exact h'
  | up hnext _ ih => exact .up hnext (ih h')

lemma Climbs.of_succ {n : Nat} {x z : α} (h : Climbs next (n + 1) x z) : ∃ y, next x = some y ∧
    Climbs next n y z := by
  cases h with
  | up hnext hrest => exact ⟨_, hnext, hrest⟩

/-- A root ends every chain that reaches it. -/
lemma RootAt.unique {m n : Nat} {x r y : α} (h : RootAt next m x r) (h' : Climbs next n x y) :
    n ≤ m ∧ Climbs next (m - n) y r := by
  obtain ⟨hclimb, hroot⟩ := h
  induction hclimb generalizing n with
  | here x =>
    cases h' with
    | here => exact ⟨Nat.le_refl _, .here _⟩
    | up hnext => simp [hroot] at hnext
  | @up m x z r hnext hrest ih =>
    cases h' with
    | here => exact ⟨Nat.zero_le _, .up hnext hrest⟩
    | @up n _ z' _ hnext' hrest' =>
      obtain rfl := Option.some.inj (hnext.symm.trans hnext')
      obtain ⟨hle, hrest⟩ := ih hrest' hroot
      exact ⟨Nat.succ_le_succ hle, by rwa [Nat.succ_sub_succ]⟩

lemma RootAt.eq {m n : Nat} {x r r' : α} (h : RootAt next m x r) (h' : RootAt next n x r') :
    m = n ∧ r = r' := by
  obtain ⟨hle, hrest⟩ := h.unique h'.1
  obtain ⟨hle', -⟩ := h'.unique h.1
  obtain rfl := Nat.le_antisymm hle' hle
  rw [Nat.sub_self] at hrest
  cases hrest
  exact ⟨rfl, rfl⟩

lemma RootAt.of_next {n : Nat} {x y r : α} (hnext : next x = some y) (h : RootAt next n y r) :
    RootAt next (n + 1) x r := ⟨.up hnext h.1, h.2⟩

lemma RootAt.zero_iff {x r : α} : RootAt next 0 x r ↔ x = r ∧ next x = none := by
  constructor
  · rintro ⟨hclimb, hroot⟩
    cases hclimb
    exact ⟨rfl, hroot⟩
  · rintro ⟨rfl, hroot⟩
    exact ⟨.here x, hroot⟩

lemma RootAt.succ_iff {n : Nat} {x r : α} : RootAt next (n + 1) x r ↔ ∃ y, next x = some y ∧
    RootAt next n y r := by
  constructor
  · rintro ⟨hclimb, hroot⟩
    obtain ⟨y, hnext, hrest⟩ := hclimb.of_succ
    exact ⟨y, hnext, hrest, hroot⟩
  · rintro ⟨y, hnext, hrest⟩
    exact hrest.of_next hnext

/-- A chain that runs into a cycle goes beyond every number of links. -/
lemma Cyclic.not_rootAt {x r : α} {n : Nat} (h : Cyclic next x) : ¬ RootAt next n x r := by
  intro hroot
  obtain ⟨m, k, y, hreach, hcycle⟩ := h
  have hturns : ∀ turns, ∃ length, turns ≤ length ∧ Climbs next length y y := by
    intro turns
    induction turns with
    | zero => exact ⟨0, Nat.le_refl _, .here y⟩
    | succ turns ih =>
      obtain ⟨length, hle, hclimb⟩ := ih
      exact ⟨length + (k + 1), by omega, hcycle.trans hclimb⟩
  obtain ⟨length, hle, hclimb⟩ := hturns (n + 1)
  have hbound := (hroot.unique (hreach.trans hclimb)).1
  omega

end Chains

section Shortcuts

/-- Every link of `next'` is the link of `next`, or leads to the root. -/
def Shortcut (next next' : α → Option α) : Prop :=
  ∀ x, next' x = next x ∨ ∃ n r, RootAt next (n + 1) x r ∧ next' x = some r

variable {next' : α → Option α}

lemma Shortcut.of_root (h : Shortcut next next') {r : α} (hroot : next r = none) :
    next' r = none := by
  rcases h r with hsame | ⟨n, r', hr', -⟩
  · rw [hsame, hroot]
  · obtain ⟨y, hnext, -⟩ := RootAt.succ_iff.mp hr'
    rw [hroot] at hnext
    exact absurd hnext (by simp)

/-- A chain ends in the same root, and not later. -/
lemma Shortcut.rootAt (h : Shortcut next next') {n : Nat} {x r : α} (hroot : RootAt next n x r) :
    ∃ m, m ≤ n ∧ RootAt next' m x r := by
  induction n generalizing x with
  | zero =>
    obtain ⟨rfl, hnone⟩ := RootAt.zero_iff.mp hroot
    exact ⟨0, Nat.le_refl _, RootAt.zero_iff.mpr ⟨rfl, h.of_root hnone⟩⟩
  | succ n ih =>
    obtain ⟨y, hnext, hrest⟩ := RootAt.succ_iff.mp hroot
    rcases h x with hsame | ⟨k, r', hr', hshort⟩
    · obtain ⟨m, hle, hm⟩ := ih hrest
      exact ⟨m + 1, by omega, hm.of_next (hsame.trans hnext)⟩
    · obtain rfl := (hr'.eq hroot).2
      exact ⟨1, by omega, RootAt.of_next hshort (RootAt.zero_iff.mpr ⟨rfl, h.of_root hroot.2⟩)⟩

/-- No chain ends that did not end before. -/
lemma Shortcut.exists_rootAt (h : Shortcut next next') {n : Nat} {x r : α}
    (hroot : RootAt next' n x r) :
    ∃ m, RootAt next m x r := by
  induction n generalizing x with
  | zero =>
    obtain ⟨rfl, hnone⟩ := RootAt.zero_iff.mp hroot
    rcases h x with hsame | ⟨k, r', -, hshort⟩
    · exact ⟨0, RootAt.zero_iff.mpr ⟨rfl, hsame ▸ hnone⟩⟩
    · rw [hnone] at hshort
      exact absurd hshort (by simp)
  | succ n ih =>
    obtain ⟨y, hnext, hrest⟩ := RootAt.succ_iff.mp hroot
    rcases h x with hsame | ⟨k, r', hr', hshort⟩
    · obtain ⟨m, hm⟩ := ih hrest
      exact ⟨m + 1, hm.of_next (hsame ▸ hnext)⟩
    · obtain rfl := Option.some.inj (hnext.symm.trans hshort)
      have hstays : RootAt next' 0 y y := RootAt.zero_iff.mpr ⟨rfl, h.of_root hr'.2⟩
      obtain ⟨-, rfl⟩ := hstays.eq hrest
      exact ⟨k + 1, hr'⟩

end Shortcuts

end RaucUpdate.Library
