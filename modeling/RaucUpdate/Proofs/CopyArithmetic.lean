import RaucUpdate.Model.CopyArithmetic
import RaucUpdate.Proofs.HashIndex

/-!
# Where the arithmetic of the copies is exact

Offsets in the hashes are right for less than 2^27 chunks. The percentages are right for files that
are neither empty nor longer than declared, and indices are built with at most as many increments as
are reserved for them if the chunks that are left over from the nine segments fit into another one.
-/

namespace RaucUpdate

open Library Prog

section Addresses

variable {digest : Nat → List UInt8} {count : Nat}

/-- All offsets and sizes are the exact products, each hash is stored at and read from its own
position, and no index file of this size fails the assertion. -/
structure AddressesExact (digest : Nat → List UInt8) (count : Nat) : Prop where
  allocation : digestOffset count = sha256Len * count
  offset : ∀ i < count, digestOffset i = sha256Len * i
  stored : ∃ hashes, hashFileBuffer digest count = some hashes ∧ hashes.length = sha256Len * count ∧
    ∀ i < count, hashAt hashes i = digest i
  sorted : ∀ hashes : List UInt8, hashes.length = sha256Len * count →
    buildLookup hashes = sortPositions (hashAt hashes) count
  reused : ∀ (dev : BlockDevice) (idx idx' : RaucHashIndex) (w : World DiskState),
    idx.count = count →
    (rHashIndexReuse dev idx w).1 = .value idx' → idx'.hashes =
      idx.hashes.take (sha256Len * idx'.count)
  asserted : ∀ (sha256 : List UInt8 → List UInt8) (dev : BlockDevice) (progress : Bool)
    (fd : DataFd)
    (mapped : List UInt8) (w : World DiskState) (reason : String), mapped.length =
      sha256Len * count →
    (rHashIndexOpen sha256 dev progress fd (some mapped) w).1 ≠ .exit (.aborted reason)

lemma digestOffset_eq_iff (i : Nat) : digestOffset i = sha256Len * i ↔ i < 2 ^ 27 := by
  unfold digestOffset sha256Len
  omega

lemma hashAt_eq_readAt (hashes : List UInt8) (i : Nat) :
    hashAt hashes i = readAt hashes (sha256Len * i) sha256Len := rfl

/-- The loop fills the buffer from its beginning. -/
lemma storeHashes_spec (hdigest : ∀ i, (digest i).length = sha256Len) (left i : Nat)
    (buffer : List UInt8)
    (hsmall : i + left < 2 ^ 27) (hbuffer : buffer.length = sha256Len * (i + left))
    (hdone : ∀ j < i, hashAt buffer j = digest j) :
    ∃ hashes, storeHashes digest left i buffer = some hashes ∧ hashes.length =
      sha256Len * (i + left) ∧
      ∀ j < i + left, hashAt hashes j = digest j := by
  induction left generalizing i buffer with
  | zero => exact ⟨buffer, rfl, hbuffer, hdone⟩
  | succ left ih =>
    have hoffset := (digestOffset_eq_iff i).mpr (by omega)
    have hne : digest i ≠ [] := by
      intro hnil
      have := hdigest i
      rw [hnil] at this
      exact absurd this (by decide)
    have hfits : sha256Len * i + sha256Len ≤ buffer.length := by
      rw [hbuffer]
      unfold sha256Len
      omega
    rw [storeHashes, hoffset, if_pos hfits]
    have hlength : (overwrite 0 buffer (sha256Len * i) (digest i)).length = buffer.length := by
      rw [length_overwrite hne, hdigest]
      omega
    obtain ⟨hashes, hstored, hlen, hall⟩ :=
      ih (i + 1) (overwrite 0 buffer (sha256Len * i) (digest i)) (by omega)
      (by rw [hlength, hbuffer]; congr 1; omega) (by
        intro j hj
        by_cases hji : j = i
        · subst hji
          rw [hashAt_eq_readAt, ← hdigest j]
          exact readAt_overwrite 0 buffer _ _
        · rw [← hdone j (by omega), hashAt_eq_readAt, hashAt_eq_readAt]
          apply readAt_overwrite_apart
          · rw [length_readAt, hbuffer]
            unfold sha256Len
            omega
          · left
            unfold sha256Len
            omega)
    have hsum : i + 1 + left = i + (left + 1) := by omega
    rw [hsum] at hlen hall
    exact ⟨hashes, hstored, hlen, hall⟩

lemma rHashIndexReuse_hashes {dev : BlockDevice} {idx idx' : RaucHashIndex} {w : World DiskState}
    (hsmall : idx.count < 2 ^ 27) (h : (rHashIndexReuse dev idx w).1 = .value idx') :
    idx'.hashes = idx.hashes.take (sha256Len * idx'.count) := by
  have hlooks : Looks w.state.device.cache (rHashIndexReuse dev idx)
      (fun idx' => idx'.hashes = idx.hashes.take (sha256Len * idx'.count)) := by
    unfold rHashIndexReuse
    apply looks_bind (getChunkCount_looks _)
    rintro size -
    apply looks_pure
    change idx.hashes.take ((if idx.count < size then idx.count else size) * sha256Len % 2 ^ 32) =
      idx.hashes.take (sha256Len * (if idx.count < size then idx.count else size))
    congr 1
    exact (digestOffset_eq_iff _).mpr (by split_ifs <;> omega)
  exact (hlooks.value rfl h).2

/-- No program of this part aborts on its own. -/
lemma rHashIndexOpen_asserted {sha256 : List UInt8 → List UInt8} {dev : BlockDevice}
    {progress : Bool} {fd : DataFd}
    {mapped : List UInt8} (hmapped : mapped.length < maxUint32) (w : World DiskState)
    (reason : String) :
    (rHashIndexOpen sha256 dev progress fd (some mapped) w).1 ≠ .exit (.aborted reason) := by
  have hstep : ∀ report, Triple (fun _ => True) (diskStep id report) (fun _ _ => True)
      (fun x _ => ∀ reason, x ≠ .aborted reason) := by
    intro report
    apply triple_bind (Q := fun _ _ => True) (triple_modify (fun _ _ => trivial))
    intro _
    apply triple_external (fun _ _ => trivial)
    · intro _ _ _ reason
      simp
    · intro _ _ reason
      simp
  have hrun : Triple (fun _ => True) (rHashIndexOpen sha256 dev progress fd (some mapped))
      (fun _ _ => True)
      (fun x _ => ∀ reason, x ≠ .aborted reason) := by
    unfold rHashIndexOpen
    apply triple_read_bind
    intro st _
    refine triple_consequence (P := fun _ => True) (Q := fun _ _ => True)
      (E := fun x _ => ∀ reason, x ≠ .aborted reason) ?_ (fun _ _ => trivial) (fun _ _ _ =>
        trivial) (fun _ _ h => h)
    apply triple_bind (Q := fun _ _ => True)
    · unfold getChunkCount
      apply triple_bind (hstep _)
      intro _
      apply triple_bind (hstep _)
      intro _
      split_ifs
      · exact triple_exit (fun _ _ reason => by simp)
      · exact triple_exit (fun _ _ reason => by simp)
      · exact triple_exit (fun _ _ reason => by simp)
      · exact triple_pure (fun _ _ => trivial)
    · intro count
      apply triple_bind (hstep _)
      intro _
      rw [if_neg (by omega)]
      split_ifs
      · exact triple_pure (fun _ _ => trivial)
      · exact triple_pure (fun _ _ => trivial)
  intro habort
  exact hrun.exit trivial habort reason rfl

/-- The addresses are right exactly if there are less than 2^27 chunks. -/
theorem hashIndex_addressesExact_iff (hdigest : ∀ i, (digest i).length = sha256Len) (count : Nat) :
    AddressesExact digest count ↔ count < 2 ^ 27 := by
  constructor
  · intro hexact
    exact (digestOffset_eq_iff count).mp hexact.allocation
  · intro hsmall
    have hallocation := (digestOffset_eq_iff count).mpr hsmall
    refine ⟨hallocation, fun i hi => (digestOffset_eq_iff i).mpr (by omega), ?_, ?_, ?_, ?_⟩
    · have hstored :=
        storeHashes_spec hdigest count 0 (List.replicate (digestOffset count) 0) (by omega)
        (by rw [List.length_replicate, hallocation, Nat.zero_add]) (by omega)
      rwa [Nat.zero_add] at hstored
    · intro hashes hlength
      have hcount : hashes.length / sha256Len = count := by
        rw [hlength]
        unfold sha256Len
        omega
      unfold buildLookup
      rw [hcount]
      apply sortPositions_congr
      intro i hi
      exact hashAt_of_small (by unfold sha256Len at *; omega) (by omega)
    · intro dev idx idx' w hcount hreuse
      exact rHashIndexReuse_hashes (by omega) hreuse
    · intro sha256 dev progress fd mapped w reason hmapped
      apply rHashIndexOpen_asserted
      unfold maxUint32 sha256Len at *
      omega

theorem threeChunks_addressesExact : AddressesExact (fun _ => rHashIndexZeroChunk) 3 :=
  (hashIndex_addressesExact_iff (fun _ => rfl) 3).mpr (by decide)

/-- A device of 512 GiB is accepted, and the buffer for its hashes is empty. -/
theorem largeDevice_addresses_wrap :
    (getChunkCount (2 ^ 39) (calm ⟨⟨fun _ => 0, fun _ => 0⟩, fun _ _ _ => false⟩)).1 =
      .value (2 ^ 27) ∧
      digestOffset (2 ^ 27) = 0 ∧ ¬AddressesExact (fun _ => rHashIndexZeroChunk) (2 ^ 27) := by
  refine ⟨by decide +kernel, by decide, ?_⟩
  intro hexact
  exact absurd ((digestOffset_eq_iff (2 ^ 27)).mp hexact.allocation) (by decide)

end Addresses

section Percentages

def CopyStep.Sound : CopyStep → Prop
  | .product value limit => value < limit
  | .division divisor => divisor ≠ 0
  | .percentage percent => 0 ≤ percent ∧ percent ≤ 100

lemma percentOf_eq {sum size : Nat} (hproduct : sum * 100 < 2 ^ 63)
    (hquotient : sum * 100 / size < 2 ^ 31) : percentOf sum size = (sum * 100 / size : Nat) := by
  unfold percentOf
  have hwide : Int.bmod (sum * 100) (2 ^ 64) = (sum * 100 : Nat) := by
    rw [Int.bmod_eq_of_le (by omega) (by omega)]
    push_cast
    rfl
  have hdiv : ((sum * 100 : Nat) : Int).tdiv size = (sum * 100 / size : Nat) := by
    rw [Int.tdiv_eq_ediv_of_nonneg (by omega)]
    push_cast
    rfl
  rw [hwide, hdiv]
  generalize sum * 100 / size = quotient at *
  exact Int.bmod_eq_of_le (by omega) (by omega)

/-- What a loop of copies computes, one round after the other. -/
lemma mem_copyLoop {size sum : Nat} {outSizes : List Nat} {step : CopyStep}
    (h : step ∈ copyLoop size outSizes sum) :
    ∃ sum' ≤ sum + outSizes.sum, step = .product (sum' * 100) (2 ^ 63) ∨ step = .division size ∨
      step = .percentage (percentOf sum' size) := by
  induction outSizes generalizing sum with
  | nil => simp [copyLoop] at h
  | cons outSize rest ih =>
    rw [copyLoop] at h
    simp only [List.sum_cons]
    rcases List.mem_append.mp h with h | h
    · refine ⟨sum + outSize, by omega, ?_⟩
      simpa using h
    · split_ifs at h
      · simp at h
      · obtain ⟨sum', hle, hstep⟩ := ih h
        exact ⟨sum', by omega, hstep⟩

/-- Copying one byte after the other, each sum is reached. -/
lemma mem_copyLoop_ones {size sum n k : Nat} (hk : k < n) :
    .product ((sum + k + 1) * 100) (2 ^ 63) ∈ copyLoop size (List.replicate n 1) sum ∧
      .percentage (percentOf (sum + k + 1) size) ∈ copyLoop size (List.replicate n 1) sum := by
  induction n generalizing sum k with
  | zero => omega
  | succ n ih =>
    rw [List.replicate_succ, copyLoop, if_neg (by omega)]
    cases k with
    | zero => simp
    | succ k =>
      obtain ⟨hproduct, hpercent⟩ := @ih (sum + 1) k (by omega)
      rw [show sum + 1 + k + 1 = sum + (k + 1) + 1 by omega] at hproduct hpercent
      exact ⟨List.mem_append_right _ hproduct, List.mem_append_right _ hpercent⟩

/-- The copies of a file of which up to so many bytes are copied. -/
lemma copyLoop_sound_iff {size length block : Nat} (hblock : 0 < block) (hsize : 0 < size) :
    (∀ outSizes : List Nat, (∀ o ∈ outSizes, o ≤ block) → outSizes.sum ≤ length →
      ∀ step ∈ copyLoop size outSizes 0, step.Sound) ↔ length * 100 < 2 ^ 63 ∧ length * 100 <
        101 * size := by
  constructor
  · intro h
    have hones : ∀ k < length, (k + 1) * 100 < 2 ^ 63 ∧ 0 ≤ percentOf (k + 1) size ∧
        percentOf (k + 1) size ≤ 100 := by
      intro k hk
      obtain ⟨hproduct, hpercent⟩ := @mem_copyLoop_ones size 0 length k hk
      have hall :=
        h (List.replicate length 1) (fun o ho => by rw [List.eq_of_mem_replicate ho]; exact hblock)
        (by simp)
      have hsum := hall _ hproduct
      have hpart := hall _ hpercent
      rw [Nat.zero_add] at hsum hpart
      exact ⟨hsum, hpart⟩
    by_cases hlength : length = 0
    · omega
    have hproduct := (hones (length - 1) (by omega)).1
    rw [show length - 1 + 1 = length by omega] at hproduct
    refine ⟨hproduct, ?_⟩
    by_contra hlong
    -- The first sum that gives more than 100 percent gives not much more.
    have hk : (101 * size + 99) / 100 - 1 < length := by omega
    obtain ⟨hsmall, -, hle⟩ := hones _ hk
    generalize hsum : (101 * size + 99) / 100 - 1 + 1 = sum at *
    have hlow : 101 ≤ sum * 100 / size := by
      rw [Nat.le_div_iff_mul_le hsize]
      omega
    have hhigh : sum * 100 / size < 202 := by
      rw [Nat.div_lt_iff_lt_mul hsize]
      omega
    rw [percentOf_eq hsmall (by omega)] at hle
    omega
  · rintro ⟨hproduct, hlong⟩ outSizes - hsum step hstep
    obtain ⟨sum, hle, hcases⟩ := mem_copyLoop hstep
    rcases hcases with rfl | rfl | rfl
    · change sum * 100 < 2 ^ 63
      omega
    · exact Nat.ne_of_gt hsize
    · have hquotient : sum * 100 / size < 101 := by
        rw [Nat.div_lt_iff_lt_mul hsize]
        omega
      change 0 ≤ percentOf sum size ∧ percentOf sum size ≤ 100
      rw [percentOf_eq (by omega) (by omega)]
      generalize sum * 100 / size = quotient at *
      omega

/-- The number of segments that have begun before a chunk. -/
lemma segments_begun {i segment : Nat} (hsegment : 0 < segment) :
    (i + segment - 1) / segment = i / segment + if i % segment = 0 then 0 else 1 := by
  have hparts := Nat.div_add_mod i segment
  have hlt := Nat.mod_lt i hsegment
  split_ifs with hzero
  · apply Nat.div_eq_of_lt_le
    · rw [Nat.add_zero, Nat.mul_comm]
      omega
    · rw [Nat.add_zero, Nat.succ_mul, Nat.mul_comm]
      omega
  · apply Nat.div_eq_of_lt_le
    · rw [Nat.succ_mul, Nat.mul_comm]
      omega
    · rw [Nat.succ_mul, Nat.succ_mul, Nat.mul_comm]
      omega

/-- What the loop over the chunks computes. The beginning of each segment adds one to the
percentage. -/
lemma mem_hashFileLoop {count left i first percent : Nat} {step : CopyStep}
    (hsegment : 0 < count / 9)
    (hpercent : percent = first + (i + count / 9 - 1) / (count / 9)) :
    step ∈ hashFileLoop count left i percent ↔ ∃ j, i ≤ j ∧ j < i + left ∧
      (step = .product (j * sha256Len) (2 ^ 32) ∨
      step = .division (count / 9) ∨ (j % (count / 9) = 0 ∧
        step = .percentage (first + j / (count / 9) + 1 : Nat))) := by
  induction left generalizing i percent with
  | zero =>
    unfold hashFileLoop
    constructor
    · intro h
      simp at h
    · rintro ⟨j, hlow, hhigh, -⟩
      omega
  | succ left ih =>
    have hnext : (i + 1 + count / 9 - 1) / (count / 9) = i / (count / 9) + 1 := by
      rw [show i + 1 + count / 9 - 1 = i + count / 9 by omega, Nat.add_div_right _ hsegment]
    have hbegun := segments_begun (i := i) hsegment
    have hsplit : ∀ P : Nat → Prop, (∃ j, i ≤ j ∧ j < i + (left + 1) ∧ P j) ↔
        P i ∨ ∃ j, i + 1 ≤ j ∧ j < i + 1 + left ∧ P j := by
      intro P
      constructor
      · rintro ⟨j, hlow, hhigh, hj⟩
        by_cases hji : j = i
        · exact .inl (hji ▸ hj)
        · exact .inr ⟨j, by omega, by omega, hj⟩
      · rintro (hi | ⟨j, hlow, hhigh, hj⟩)
        · exact ⟨i, by omega, by omega, hi⟩
        · exact ⟨j, by omega, by omega, hj⟩
    rw [hsplit, hashFileLoop]
    change step ∈ [CopyStep.product (i * sha256Len) (2 ^ 32), .division (count / 9)] ++
      (if i % (count / 9) = 0 then .percentage ((percent : Int) + 1) :: hashFileLoop count
        left (i + 1) (percent + 1)
      else hashFileLoop count left (i + 1) percent) ↔ _
    by_cases hstart : i % (count / 9) = 0
    · rw [if_pos hstart] at hbegun ⊢
      have hrest := @ih (i + 1) (percent + 1) (by rw [hnext, hpercent, hbegun]; omega)
      have hvalue : (percent : Int) + 1 = (first + i / (count / 9) + 1 : Nat) := by
        rw [hpercent, hbegun, Nat.add_zero]
        push_cast
        rfl
      rw [List.mem_append, hvalue]
      simp only [List.mem_cons, List.not_mem_nil, hrest, or_false, hstart, true_and, or_assoc]
    · rw [if_neg hstart] at hbegun ⊢
      have hrest := @ih (i + 1) percent (by rw [hnext, hpercent, hbegun])
      rw [List.mem_append, hrest]
      simp only [List.mem_cons, List.not_mem_nil, or_false, hstart, false_and, or_assoc]

/-- What `hash_file` needs: nine segments that are not empty, in which the chunks that are left over
take no more than one further segment, and a buffer of 32 bits. -/
def SegmentsFit (count : Nat) : Prop := 9 ≤ count ∧ count % 9 ≤ count / 9 ∧
    count * sha256Len < 2 ^ 32

def HashFileSound (count percent : Nat) : Prop :=
  ∀ step ∈ hashFileSteps count percent, step.Sound ∧
    ∀ reached, step = .percentage reached → reached ≤ percent + rHashIndexGenProgressSpan

lemma hashFileSteps_sound_iff {count percent : Nat} (hcount : 0 < count) (hpercent : percent ≤ 90) :
    HashFileSound count percent ↔ SegmentsFit count := by
  have hfirst : 0 < count / 9 → percent = percent + (0 + count / 9 - 1) / (count / 9) := by
    intro hsegment
    rw [segments_begun hsegment]
    simp
  unfold HashFileSound SegmentsFit hashFileSteps
  constructor
  · intro h
    have hproduct : count * sha256Len < 2 ^ 32 := (h _ List.mem_cons_self).1
    have hdivision : count / 9 ≠ 0 := by
      refine (h (.division (count / 9)) (List.mem_cons_of_mem _ ?_)).1
      obtain ⟨left, rfl⟩ : ∃ left, count = left + 1 := ⟨count - 1, by omega⟩
      rw [hashFileLoop]
      simp [rHashIndexGenProgressSpan]
    have hsegment : 0 < count / 9 := Nat.pos_of_ne_zero hdivision
    refine ⟨by omega, ?_, hproduct⟩
    -- The last segment that begins.
    have hlast : (count - 1) / (count / 9) * (count / 9) ≤ count - 1 := Nat.div_mul_le_self _ _
    have hmem : .percentage (percent + (count - 1) / (count / 9) * (count / 9) /
        (count / 9) + 1 : Nat) ∈
        hashFileLoop count count 0 percent :=
      (mem_hashFileLoop hsegment (hfirst hsegment)).mpr
        ⟨(count - 1) / (count / 9) * (count / 9), by omega, by omega,
        .inr (.inr ⟨Nat.mul_mod_left _ _, rfl⟩)⟩
    have hreached := (h _ (List.mem_cons_of_mem _ hmem)).2 _ rfl
    rw [Nat.mul_div_cancel _ hsegment] at hreached
    have hsegments : (count - 1) / (count / 9) < 10 := by
      unfold rHashIndexGenProgressSpan at hreached
      omega
    rw [Nat.div_lt_iff_lt_mul hsegment] at hsegments
    omega
  · rintro ⟨hmin, hfit, hproduct⟩ step hstep
    have hsegment : 0 < count / 9 := by omega
    have hsegments : ∀ j < count, j / (count / 9) < 10 := by
      intro j hj
      rw [Nat.div_lt_iff_lt_mul hsegment]
      omega
    rcases List.mem_cons.mp hstep with rfl | hstep
    · exact ⟨hproduct, fun reached h => by simp at h⟩
    · obtain ⟨j, -, hj, hcases⟩ := (mem_hashFileLoop hsegment (hfirst hsegment)).mp hstep
      rw [Nat.zero_add] at hj
      have hpart := hsegments j hj
      rcases hcases with rfl | rfl | ⟨-, rfl⟩
      · refine ⟨?_, fun reached h => by simp at h⟩
        change j * sha256Len < 2 ^ 32
        unfold sha256Len at *
        omega
      · exact ⟨Nat.ne_of_gt hsegment, fun reached h => by simp at h⟩
      · generalize j / (count / 9) = segment at *
        refine ⟨⟨by omega, by omega⟩, fun reached h => ?_⟩
        obtain rfl : ((percent + segment + 1 : Nat) : Int) = reached := by simpa using h
        unfold rHashIndexGenProgressSpan
        omega

lemma copyBlockSteps_sound_iff {count : Nat} (hcount : 0 < count) (hmax : count ≤ maxUint32) :
    (∀ step ∈ copyBlockSteps count, step.Sound) ↔ count * 80 < 2 ^ 32 := by
  unfold copyBlockSteps
  constructor
  · intro h
    have hmem : CopyStep.product (count * 80) (2 ^ 32) ∈ (List.range count).flatMap
        (copyChunkSteps count) := by
      rw [List.mem_flatMap]
      refine ⟨count - 1, List.mem_range.mpr (by omega), ?_⟩
      unfold copyChunkSteps
      simp only [Nat.sub_add_cancel hcount]
      simp [rHashIndexGenProgressSpan]
    exact h _ (List.mem_append_left _ (List.mem_append_right _ hmem))
  · intro hsmall step hstep
    simp only [List.mem_append, List.mem_flatMap, List.mem_range, List.mem_singleton] at hstep
    rcases hstep with (hstep | ⟨c, hc, hstep⟩) | rfl
    · simp only [openPercentages, List.tail_cons, List.map_cons, List.map_nil, List.mem_cons,
        List.not_mem_nil,
        or_false] at hstep
      rcases hstep with rfl | rfl
      · exact ⟨by decide, by decide⟩
      · exact ⟨by decide, by decide⟩
    · have hquotient : (c + 1) * 80 % 2 ^ 32 / count ≤ 80 := by
        rw [Nat.div_le_iff_le_mul_add_pred hcount]
        omega
      unfold copyChunkSteps at hstep
      simp only [List.mem_cons, List.not_mem_nil, or_false] at hstep
      rcases hstep with rfl | rfl | rfl | rfl
      · change c * chunkSize < 2 ^ 63
        unfold chunkSize maxUint32 at *
        omega
      · change (c + 1) * 80 < 2 ^ 32
        omega
      · exact Nat.ne_of_gt hcount
      · change 0 ≤ ((20 + (c + 1) * 80 % 2 ^ 32 / count : Nat) : Int) ∧
          ((20 + (c + 1) * 80 % 2 ^ 32 / count : Nat) : Int) ≤ 100
        generalize (c + 1) * 80 % 2 ^ 32 / count = quotient at *
        omega
    · change count * chunkSize < 2 ^ 63
      unfold chunkSize maxUint32 at *
      omega

/-- Nothing that the four functions compute divides by zero or wraps, and the percentages are
between 0 and 100, for every sequence of partial copies; building an index takes no more of the
percentages than are reserved for it. -/
structure CopyProgressSound (size length count : Nat) : Prop where
  hashFile : ∀ percent ∈ openPercentages, HashFileSound count percent
  splice : ∀ outSizes : List Nat, (∀ o ∈ outSizes, o ≤ 2 ^ 20) → outSizes.sum ≤ length →
    ∀ step ∈ spliceSteps length outSizes, step.Sound
  copyStream : ∀ outSizes : List Nat, (∀ o ∈ outSizes, o ≤ 8192) → outSizes.sum ≤ length →
    ∀ step ∈ copyStreamSteps size outSizes, step.Sound
  copyBlock : ∀ step ∈ copyBlockSteps count, step.Sound

/-- The condition on the declared size, the length of the file and the number of chunks. -/
structure CopyAdmits (size length count : Nat) : Prop where
  segments : SegmentsFit count
  chunks : count * 80 < 2 ^ 32
  spliced : 0 < length ∧ length * 100 < 2 ^ 63
  declared : size = 0 ∨ length * 100 < 101 * size

lemma spliceSteps_sound_iff (length : Nat) :
    (∀ outSizes : List Nat, (∀ o ∈ outSizes, o ≤ 2 ^ 20) → outSizes.sum ≤ length →
      ∀ step ∈ spliceSteps length outSizes, step.Sound) ↔ 0 < length ∧ length * 100 < 2 ^ 63 := by
  unfold spliceSteps
  by_cases hlength : 0 < length
  · rw [copyLoop_sound_iff (by decide) hlength]
    omega
  · constructor
    · intro h
      -- The splice of an empty file copies nothing, and divides by its size.
      obtain rfl : length = 0 := by omega
      have hzero := h [0] (by simp) (by simp) (.division 0) (by simp [copyLoop])
      exact absurd rfl hzero
    · omega

lemma copyStreamSteps_sound_iff (size length : Nat) :
    (∀ outSizes : List Nat, (∀ o ∈ outSizes, o ≤ 8192) → outSizes.sum ≤ length →
      ∀ step ∈ copyStreamSteps size outSizes, step.Sound) ↔
      size = 0 ∨ (length * 100 < 2 ^ 63 ∧ length * 100 < 101 * size) := by
  unfold copyStreamSteps
  by_cases hsize : size = 0
  · simp [hsize]
  · simp only [if_neg hsize]
    rw [copyLoop_sound_iff (by decide) (Nat.pos_of_ne_zero hsize)]
    exact ⟨.inr, fun h => h.resolve_left hsize⟩

/-- The arithmetic is sound exactly under the condition. -/
theorem copyProgress_sound_iff (size length : Nat) {count : Nat} (hcount : 0 < count)
    (hmax : count ≤ maxUint32) :
    CopyProgressSound size length count ↔ CopyAdmits size length count := by
  have hopen : (∀ percent ∈ openPercentages, HashFileSound count percent) ↔ SegmentsFit count := by
    constructor
    · intro h
      exact (hashFileSteps_sound_iff hcount (by decide)).mp (h 0 (by decide))
    · intro h percent hpercent
      apply (hashFileSteps_sound_iff hcount _).mpr h
      revert percent
      decide
  constructor
  · intro h
    refine ⟨hopen.mp h.hashFile, (copyBlockSteps_sound_iff hcount hmax).mp h.copyBlock,
      (spliceSteps_sound_iff length).mp h.splice, ?_⟩
    exact ((copyStreamSteps_sound_iff size length).mp h.copyStream).imp_right And.right
  · intro h
    exact ⟨hopen.mpr h.segments, (spliceSteps_sound_iff length).mpr h.spliced,
      (copyStreamSteps_sound_iff size length).mpr
        (h.declared.imp_right (fun hsize => ⟨h.spliced.2, hsize⟩)),
      (copyBlockSteps_sound_iff hcount hmax).mpr h.chunks⟩

theorem smallImage_copyProgress_sound : CopyProgressSound 409600 409600 100 :=
  (copyProgress_sound_iff 409600 409600 (by decide) (by decide)).mpr
    ⟨⟨by decide, by decide, by decide⟩, by decide, ⟨by decide, by decide⟩, .inr (by decide)⟩

/-- An image of one chunk divides by zero when its index is built, and so does the splice of an
empty file. -/
theorem oneChunk_divides_by_zero :
    .division 0 ∈ hashFileSteps 1 0 ∧ .division 0 ∈ spliceSteps 0 [0] ∧
      ¬CopyProgressSound 4096 4096 1 := by
  refine ⟨?_, ?_, ?_⟩
  · simp [hashFileSteps, hashFileLoop, rHashIndexGenProgressSpan]
  · simp [spliceSteps, copyLoop]
  · intro h
    have hdivision := (h.hashFile 0 (by decide) (.division 0)
      (by simp [hashFileSteps, hashFileLoop, rHashIndexGenProgressSpan])).1
    exact absurd rfl hdivision

end Percentages

end RaucUpdate
