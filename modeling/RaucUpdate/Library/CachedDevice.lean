import Mathlib.Data.List.Basic

/-!
# A device behind a write cache

Reads and writes go to the cache. A sync brings everything to the medium, and at any time any set of
sectors may get there by itself. A crash leaves what is on the medium.
-/

namespace RaucUpdate.Library

variable {β : Type}

section Contents

/-- The content after some bytes were written at a position. -/
def writeAt (v : Nat → β) (pos : Nat) (bytes : List β) : Nat → β := fun b =>
  if pos ≤ b then (bytes[b - pos]?).getD (v b) else v b

/-- The bytes stand at a position. -/
def Stored (v : Nat → β) (pos : Nat) (bytes : List β) : Prop :=
  ∀ k x, bytes[k]? = some x → v (pos + k) = x

variable {v w : Nat → β} {pos : Nat} {bytes : List β}

lemma writeAt_outside {b : Nat} (h : b < pos ∨ pos + bytes.length ≤ b) :
    writeAt v pos bytes b = v b := by
  unfold writeAt
  split_ifs with hpos
  · have hlen : bytes.length ≤ b - pos := by omega
    rw [List.getElem?_eq_none hlen]
    rfl
  · rfl

lemma writeAt_nil (v : Nat → β) (pos : Nat) : writeAt v pos [] = v := by
  funext b
  apply writeAt_outside
  simp only [List.length_nil]
  omega

lemma stored_writeAt (v : Nat → β) (pos : Nat) (bytes : List β) :
    Stored (writeAt v pos bytes) pos bytes := by
  intro k x hx
  unfold writeAt
  rw [if_pos (by omega), show pos + k - pos = k by omega, hx]
  rfl

/-- Two writes one after the other are one write. -/
lemma writeAt_append (v : Nat → β) (pos : Nat) (first second : List β) :
    writeAt (writeAt v pos first) (pos + first.length) second =
      writeAt v pos (first ++ second) := by
  funext b
  unfold writeAt
  by_cases hpos : pos ≤ b
  · by_cases hfirst : pos + first.length ≤ b
    · have hnone : first[b - pos]? = none := List.getElem?_eq_none (by omega)
      rw [if_pos hfirst, if_pos hpos, if_pos hpos, List.getElem?_append_right (by omega), hnone,
        Nat.sub_add_eq]
      rfl
    · rw [if_neg hfirst, if_pos hpos, if_pos hpos, List.getElem?_append_left (by omega)]
  · rw [if_neg (by omega), if_neg hpos, if_neg hpos]

/-- The order of the two writes does not matter. -/
lemma writeAt_append_last (v : Nat → β) (pos : Nat) (first second : List β) :
    writeAt (writeAt v (pos + first.length) second) pos first =
      writeAt v pos (first ++ second) := by
  funext b
  unfold writeAt
  by_cases hpos : pos ≤ b
  · rw [if_pos hpos, if_pos hpos]
    by_cases hfirst : pos + first.length ≤ b
    · rw [List.getElem?_eq_none (by omega), Option.getD_none, if_pos hfirst,
        List.getElem?_append_right (by omega),
        Nat.sub_add_eq]
    · rw [List.getElem?_append_left (by omega), List.getElem?_eq_getElem (by omega),
        Option.getD_some, Option.getD_some]
  · rw [if_neg hpos, if_neg hpos, if_neg (by omega)]

lemma stored_nil (v : Nat → β) (pos : Nat) : Stored v pos [] := by
  intro k x hx
  simp at hx

lemma Stored.congr (h : Stored v pos bytes)
    (hsame : ∀ k < bytes.length, w (pos + k) = v (pos + k)) :
    Stored w pos bytes := by
  intro k x hx
  obtain ⟨hk, -⟩ := List.getElem?_eq_some_iff.mp hx
  rw [hsame k hk]
  exact h k x hx

/-- What stands elsewhere survives a write. -/
lemma Stored.writeAt {other : List β} {at' : Nat} (h : Stored v pos bytes)
    (hapart : at' + other.length ≤ pos ∨ pos + bytes.length ≤ at') :
      Stored (writeAt v at' other) pos bytes := by
  apply h.congr
  intro k hk
  apply writeAt_outside
  omega

lemma stored_append {first second : List β} :
    Stored v pos (first ++ second) ↔ Stored v pos first ∧ Stored v (pos + first.length) second := by
  constructor
  · intro h
    refine ⟨?_, ?_⟩
    · intro k x hx
      obtain ⟨hk, -⟩ := List.getElem?_eq_some_iff.mp hx
      exact h k x (by rw [List.getElem?_append_left hk, hx])
    · intro k x hx
      have hk : first.length ≤ first.length + k := by omega
      rw [Nat.add_assoc]
      apply h
      rw [List.getElem?_append_right hk, show first.length + k - first.length = k by omega, hx]
  · rintro ⟨hfirst, hsecond⟩ k x hx
    by_cases hk : k < first.length
    · rw [List.getElem?_append_left hk] at hx
      exact hfirst k x hx
    · rw [List.getElem?_append_right (by omega)] at hx
      have hthere := hsecond (k - first.length) x hx
      rwa [show pos + first.length + (k - first.length) = pos + k by omega] at hthere

end Contents

/-- What is read and what would be left by a crash. -/
structure CachedDevice (β : Type) where
  cache : Nat → β
  medium : Nat → β

namespace CachedDevice

def write (d : CachedDevice β) (pos : Nat) (bytes : List β) : CachedDevice β :=
  { d with cache := writeAt d.cache pos bytes }

def sync (d : CachedDevice β) : CachedDevice β := { d with medium := d.cache }

/-- The chosen sectors of the given size get to the medium. -/
def flush (d : CachedDevice β) (sector : Nat) (chosen : Nat → Bool) : CachedDevice β :=
  { d with medium := fun b => if chosen (b / sector) then d.cache b else d.medium b }

def crash (d : CachedDevice β) : CachedDevice β := { d with cache := d.medium }

@[simp] lemma write_cache (d : CachedDevice β) (pos : Nat) (bytes : List β) :
    (d.write pos bytes).cache = writeAt d.cache pos bytes := rfl

@[simp] lemma write_medium (d : CachedDevice β) (pos : Nat) (bytes : List β) :
    (d.write pos bytes).medium = d.medium := rfl

lemma write_nil (d : CachedDevice β) (pos : Nat) : d.write pos [] = d := by
  unfold write
  rw [writeAt_nil]

@[simp] lemma sync_cache (d : CachedDevice β) : d.sync.cache = d.cache := rfl

@[simp] lemma sync_medium (d : CachedDevice β) : d.sync.medium = d.cache := rfl

@[simp] lemma flush_cache (d : CachedDevice β) (sector : Nat) (chosen : Nat → Bool) :
    (d.flush sector chosen).cache = d.cache := rfl

@[simp] lemma crash_cache (d : CachedDevice β) : d.crash.cache = d.medium := rfl

@[simp] lemma crash_medium (d : CachedDevice β) : d.crash.medium = d.medium := rfl

lemma flush_medium (d : CachedDevice β) (sector : Nat) (chosen : Nat → Bool) (b : Nat) :
    (d.flush sector chosen).medium b = if chosen (b / sector) then d.cache b else d.medium b := rfl

/-- Where cache and medium agree, nothing can get lost. -/
lemma flush_medium_of_agree {d : CachedDevice β} {b : Nat} (h : d.cache b = d.medium b)
    (sector : Nat)
    (chosen : Nat → Bool) : (d.flush sector chosen).medium b = d.medium b := by
  rw [flush_medium]
  split_ifs
  · exact h
  · rfl

end CachedDevice

end RaucUpdate.Library
