import RaucUpdate.Library.FileBytes

/-!
# Trees of block hashes

A level of a tree is a sequence of blocks of one size. The level above holds the digests of its
blocks one after the other, filled up to whole blocks. If no two different blocks have the same
digest, the topmost block determines the bytes at the bottom, as long as it is known how many levels
there are and how many blocks are at the bottom.
-/

namespace RaucUpdate.Library

variable {β : Type}

/-- A hash of blocks: the length of a digest, how many digests a block holds, and the filling. -/
structure BlockHash (β : Type) where
  hash : List β → List β
  width : Nat
  fan : Nat
  fill : β
  hash_length : ∀ block, (hash block).length = width
  width_pos : 0 < width
  fan_pos : 1 < fan

namespace BlockHash

variable (t : BlockHash β)

def blockSize : Nat := t.fan * t.width

/-- The number of blocks in the level above. -/
def parents (count : Nat) : Nat := (count + t.fan - 1) / t.fan

/-- The digests of that many blocks. -/
def digests : Nat → List β → List β
  | 0, _ => []
  | count + 1, bytes => t.hash (bytes.take t.blockSize) ++ digests count (bytes.drop t.blockSize)

def parentLevel (count : Nat) (bytes : List β) : List β :=
  t.digests count bytes ++ List.replicate (t.blockSize * t.parents count - t.width * count) t.fill

/-- How many blocks there are so many levels above. -/
def countAbove : Nat → Nat → Nat
  | 0, count => count
  | height + 1, count => countAbove height (t.parents count)

/-- All the blocks of so many levels above. -/
def blocksAbove : Nat → Nat → Nat
  | 0, _ => 0
  | height + 1, count => t.parents count + blocksAbove height (t.parents count)

/-- The bytes that are so many levels above. -/
def above : Nat → Nat → List β → List β
  | 0, _, bytes => bytes
  | height + 1, count, bytes => above height (t.parents count) (t.parentLevel count bytes)

variable {t}

lemma blockSize_pos : 0 < t.blockSize := Nat.mul_pos (by have := t.fan_pos; omega) t.width_pos

section Counts

lemma parents_zero : t.parents 0 = 0 := by
  unfold parents
  have := t.fan_pos
  rw [Nat.zero_add]
  exact Nat.div_eq_of_lt (by omega)

lemma parents_pos {count : Nat} (h : 0 < count) : 0 < t.parents count := by
  unfold parents
  have := t.fan_pos
  exact Nat.div_pos (by omega) (by omega)

lemma parents_mono {count count' : Nat} (h : count ≤ count') :
    t.parents count ≤ t.parents count' := by
  unfold parents
  exact Nat.div_le_div_right (by omega)

/-- A higher tree over no fewer blocks is larger. -/
lemma blocksAbove_lt {height height' count count' : Nat} (hheight : height < height')
    (hcount : count ≤ count')
    (hpos : 0 < count') : t.blocksAbove height count < t.blocksAbove height' count' := by
  induction height generalizing height' count count' with
  | zero =>
    cases height' with
    | zero => omega
    | succ height' =>
      have := t.parents_pos hpos
      rw [blocksAbove, blocksAbove]
      omega
  | succ height ih =>
    cases height' with
    | zero => omega
    | succ height' =>
      have hmono := t.parents_mono hcount
      have := ih (by omega : height < height') hmono (t.parents_pos hpos)
      rw [blocksAbove, blocksAbove]
      omega

lemma count_le (count : Nat) : count ≤ t.fan * t.parents count := by
  unfold parents
  have hfan := t.fan_pos
  have hdiv := Nat.div_add_mod (count + t.fan - 1) t.fan
  have hmod := Nat.mod_lt (count + t.fan - 1) (show 0 < t.fan by omega)
  omega

lemma digests_le (count : Nat) : t.width * count ≤ t.blockSize * t.parents count := by
  have h := Nat.mul_le_mul_left t.width (t.count_le count)
  unfold blockSize
  calc t.width * count ≤ t.width * (t.fan * t.parents count) := h
    _ = t.fan * t.width * t.parents count := by rw [← Nat.mul_assoc, Nat.mul_comm t.width t.fan]

end Counts

section Digests

lemma length_digests (count : Nat) (bytes : List β) :
    (t.digests count bytes).length = t.width * count := by
  induction count generalizing bytes with
  | zero => rfl
  | succ count ih => rw [digests, List.length_append, t.hash_length, ih, Nat.mul_succ, Nat.add_comm]

lemma length_parentLevel (count : Nat) (bytes : List β) :
    (t.parentLevel count bytes).length = t.blockSize * t.parents count := by
  have hle := t.digests_le count
  unfold parentLevel
  rw [List.length_append, length_digests, List.length_replicate]
  omega

lemma length_above (height count : Nat) (bytes : List β) (h : bytes.length = t.blockSize * count) :
    (t.above height count bytes).length = t.blockSize * t.countAbove height count := by
  induction height generalizing count bytes with
  | zero => exact h
  | succ height ih => exact ih _ _ (length_parentLevel count bytes)

lemma parentLevel_zero (bytes : List β) : t.parentLevel 0 bytes = [] := by
  unfold parentLevel
  rw [parents_zero, Nat.mul_zero, Nat.zero_sub]
  rfl

lemma digests_add (first second : Nat) (bytes : List β) :
    t.digests (first + second) bytes = t.digests first bytes ++
      t.digests second (bytes.drop (t.blockSize * first)) := by
  induction first generalizing bytes with
  | zero => rw [Nat.zero_add, Nat.mul_zero]; rfl
  | succ first ih =>
    rw [show first + 1 + second = first + second +
      1 by omega, digests, digests, ih, List.append_assoc, List.drop_drop,
      Nat.mul_succ, Nat.add_comm t.blockSize]

/-- The digests see only the blocks they belong to. -/
lemma digests_take (count : Nat) (bytes rest : List β) (h : bytes.length = t.blockSize * count) :
    t.digests count (bytes ++ rest) = t.digests count bytes := by
  induction count generalizing bytes with
  | zero => rfl
  | succ count ih =>
    rw [Nat.mul_succ] at h
    rw [digests, digests, List.take_append_of_le_length (by omega),
      List.drop_append_of_le_length (by omega), ih]
    rw [List.length_drop]
    omega

/-- The digest of a block stands at the place of the block. -/
lemma readAt_digests {count i : Nat} (bytes : List β) (h : i < count) :
    readAt (t.digests count bytes) (t.width * i) t.width =
      t.hash (readAt bytes (t.blockSize * i) t.blockSize) := by
  obtain ⟨rest, rfl⟩ := Nat.exists_eq_add_of_lt h
  rw [show i + rest + 1 = i + (1 + rest) by omega, digests_add, digests_add]
  have hone : t.digests 1 (bytes.drop (t.blockSize * i)) =
      t.hash (readAt bytes (t.blockSize * i) t.blockSize) := by
    rw [digests, digests, List.append_nil]
    rfl
  rw [hone]
  have hread :=
    readAt_append_right (t.digests i bytes) (t.hash (readAt bytes (t.blockSize * i) t.blockSize))
    (t.digests rest ((bytes.drop (t.blockSize * i)).drop (t.blockSize * 1)))
  rwa [length_digests, t.hash_length, List.append_assoc] at hread

end Digests

section Binding

/-- The blocks of a level satisfy the condition. -/
def BlocksIn (t : BlockHash β) (P : List β → Prop) (count : Nat) (bytes : List β) : Prop :=
  ∀ i, i < count → P (readAt bytes (t.blockSize * i) t.blockSize)

/-- The blocks of the level and of all levels up to a height satisfy the condition. -/
def LevelsIn (t : BlockHash β) (P : List β → Prop) : Nat → Nat → List β → Prop
  | 0, count, bytes => t.BlocksIn P count bytes
  | height + 1, count, bytes =>
    t.BlocksIn P count bytes ∧ LevelsIn t P height (t.parents count) (t.parentLevel count bytes)

/-- No block of the one kind has the digest of a different block of the other kind. -/
def Apart (t : BlockHash β) (P P' : List β → Prop) : Prop :=
  ∀ x y, P x → P' y → t.hash x = t.hash y → x = y

/-- No block of the kind has a digest that looks like filling. -/
def NoFill (t : BlockHash β) (P : List β → Prop) : Prop :=
  ∀ x, P x → t.hash x ≠ List.replicate t.width t.fill

variable {P P' : List β → Prop} {count count' : Nat} {bytes bytes' : List β}

lemma digests_injective (hapart : t.Apart P P') (hlen : bytes.length = t.blockSize * count)
    (hlen' : bytes'.length = t.blockSize * count) (hin : t.BlocksIn P count bytes)
    (hin' : t.BlocksIn P' count bytes')
    (h : t.digests count bytes = t.digests count bytes') : bytes = bytes' := by
  have hblock : ∀ i, i < count →
      readAt bytes (t.blockSize * i) t.blockSize = readAt bytes' (t.blockSize * i) t.blockSize := by
    intro i hi
    apply hapart _ _ (hin i hi) (hin' i hi)
    rw [← readAt_digests bytes hi, ← readAt_digests bytes' hi, h]
  apply List.ext_getElem?
  intro k
  by_cases hk : k < t.blockSize * count
  · have hpos := t.blockSize_pos
    have hi : k / t.blockSize < count := Nat.div_lt_of_lt_mul hk
    have hmod := Nat.mod_lt k hpos
    have hsame := congrArg (fun l => l[k % t.blockSize]?) (hblock _ hi)
    simp only [getElem?_readAt, if_pos hmod] at hsame
    rwa [Nat.div_add_mod] at hsame
  · rw [List.getElem?_eq_none (by omega), List.getElem?_eq_none (by omega)]

/-- More digests than in the other level would have to look like filling there. -/
lemma count_le_of_parentLevel_eq (hfill : t.NoFill P') (hin' : t.BlocksIn P' count' bytes')
    (h : t.parentLevel count bytes = t.parentLevel count' bytes') : count' ≤ count := by
  by_contra hlt
  have hlt : count < count' := by omega
  apply hfill _ (hin' count hlt)
  rw [← readAt_digests bytes' hlt]
  have hwide : t.width * count + t.width ≤ t.width * count' := by
    rw [← Nat.mul_succ]
    exact Nat.mul_le_mul_left _ hlt
  have hfront : readAt (t.digests count' bytes') (t.width * count) t.width =
      readAt (t.parentLevel count' bytes') (t.width * count) t.width := by
    apply readAt_congr
    intro k hk
    unfold parentLevel
    rw [List.getElem?_append_left]
    rw [length_digests]
    omega
  rw [hfront, ← h]
  apply List.ext_getElem?
  intro k
  rw [getElem?_readAt]
  split_ifs with hk
  · have hlen := congrArg List.length h
    rw [length_parentLevel, length_parentLevel] at hlen
    have hle := t.digests_le count'
    unfold parentLevel
    rw [List.getElem?_append_right (by rw [length_digests]; omega), length_digests,
      Nat.add_sub_cancel_left,
      List.getElem?_replicate_of_lt (by omega), List.getElem?_replicate_of_lt hk]
  · rw [List.getElem?_eq_none]
    rw [List.length_replicate]
    omega

lemma parentLevel_injective (hapart : t.Apart P P') (hlen : bytes.length = t.blockSize * count)
    (hlen' : bytes'.length = t.blockSize * count') (hin : t.BlocksIn P count bytes)
    (hin' : t.BlocksIn P' count' bytes') (hcount : count = count' ∨ t.NoFill P ∧ t.NoFill P')
    (h : t.parentLevel count bytes = t.parentLevel count' bytes') :
      count = count' ∧ bytes = bytes' := by
  have hsame : count = count' := by
    cases hcount with
    | inl heq => exact heq
    | inr hfill =>
      have hle := count_le_of_parentLevel_eq hfill.2 hin' h
      have hge := count_le_of_parentLevel_eq hfill.1 hin h.symm
      omega
  subst hsame
  refine ⟨rfl, digests_injective hapart hlen hlen' hin hin' ?_⟩
  unfold parentLevel at h
  exact List.append_inj_left h (by rw [length_digests, length_digests])

/-- What is so many levels above determines what is at the bottom. -/
theorem above_injective (hapart : t.Apart P P') (height : Nat)
    (hlen : bytes.length = t.blockSize * count)
    (hlen' : bytes'.length = t.blockSize * count') (hin : t.LevelsIn P height count bytes)
    (hin' : t.LevelsIn P' height count' bytes') (hcount : count = count' ∨ t.NoFill P ∧ t.NoFill P')
    (h : t.above height count bytes = t.above height count' bytes') :
      count = count' ∧ bytes = bytes' := by
  induction height generalizing count count' bytes bytes' with
  | zero =>
    change bytes = bytes' at h
    subst h
    refine ⟨?_, rfl⟩
    exact Nat.eq_of_mul_eq_mul_left t.blockSize_pos (hlen.symm.trans hlen')
  | succ height ih =>
    have hcount' : t.parents count = t.parents count' ∨ t.NoFill P ∧ t.NoFill P' := by
      cases hcount with
      | inl heq => exact Or.inl (congrArg t.parents heq)
      | inr hfill => exact Or.inr hfill
    obtain ⟨-, hlevel⟩ := ih (length_parentLevel _ _) (length_parentLevel _ _) hin.2
      hin'.2 hcount' h
    exact parentLevel_injective hapart hlen hlen' hin.1 hin'.1 hcount hlevel

end Binding

end BlockHash

end RaucUpdate.Library
