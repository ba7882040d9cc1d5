import RaucUpdate.Model.DeviceLoops

/-!
# Where the loops over a device end

Both loops make progress with the bytes that the calls transfer, up to the end of the area and of
the device. What they have done after a number of calls depends on the sum of what was transferred
only, as long as the count of the bytes does not wrap.
-/

namespace RaucUpdate

open Library

/-- How many bytes the first calls transfer at most, with a buffer for each of them. -/
def offered (results : Nat → Option Nat) : Nat → Nat
  | 0 => 0
  | n + 1 => offered results n + min ((results n).getD 0) bufferSize

lemma offered_mono (results : Nat → Option Nat) {n m : Nat} (h : n ≤ m) :
    offered results n ≤ offered results m := by
  induction h with
  | refl => exact le_refl _
  | step _ ih =>
    rw [offered]
    omega

lemma offered_succ {results : Nat → Option Nat} {n k : Nat} (h : results n = some k) :
    offered results (n + 1) = offered results n + min k bufferSize := by
  rw [offered, h]
  rfl

/-- What is transferred of a buffer that may be shorter at the end of the area only. -/
lemma transferred_eq {area done before request k : Nat} (hdone : done = min area before)
    (hmax : request ≤ bufferSize)
    (hmin : min bufferSize (area - done) ≤ request) :
    done + min k (min request (area - done)) = min area (before + min k bufferSize) := by
  have hrequest : min request (area - done) = min bufferSize (area - done) := by omega
  rw [hrequest, ← Nat.min_assoc]
  generalize min k bufferSize = count
  omega

/-- The same with a buffer that is cut off at the end of the area, where the device may end
first. -/
lemma transferred_cut_eq {size room done before k : Nat}
    (hdone : done = min (min size room) before) :
    done + min k (min (min bufferSize (size - done)) (room - done)) =
      min (min size room) (before + min k bufferSize) := by
  have hcut : min (min bufferSize (size - done)) (room - done) =
      min bufferSize (min size room - done) := by
    rw [Nat.min_assoc, Nat.sub_min_sub_right]
  rw [hcut]
  generalize min size room = area at *
  exact transferred_eq hdone (le_refl _) (Nat.min_le_left _ _)

section Checking

variable {dev : ByteFile} {start size : Nat} {results : Nat → Option Nat}

/-- How much of the area was read after a number of calls. -/
def readSoFar (dev : ByteFile) (start size : Nat) (results : Nat → Option Nat) (n : Nat) : Nat :=
  min (min size (dev.size - start)) (offered results n)

/-- All bytes of the area are read. -/
def ReadsAll (dev : ByteFile) (start size : Nat) (results : Nat → Option Nat) : Prop :=
  ∃ n, (∀ i < n, results i ≠ none) ∧ readSoFar dev start size results n = size

/-- Reading is given up: with an error in front of the end of the area, or with a byte that is not
clear. -/
def ReadsStop (dev : ByteFile) (start size : Nat) (results : Nat → Option Nat) : Prop :=
  ∃ n, (∀ i < n, results i ≠ none) ∧ (results n = none ∧ readSoFar dev start size results n < size ∨
    ∃ i < readSoFar dev start size results n, isClearByte (dev.bytes (start + i)) = false)

/-- All bytes of the area exist and are clear. -/
def AreaClear (dev : ByteFile) (start size : Nat) : Prop :=
  ∀ k, start ≤ k → k < start + size → k < dev.size ∧ isClearByte (dev.bytes k) = true

/-- The variables of the loop after a number of calls that read clear bytes only. -/
structure ReadingAt (dev : ByteFile) (start size : Nat) (results : Nat → Option Nat)
    (n pos readSize left : Nat) : Prop where
  noError : ∀ i < n, results i ≠ none
  position : pos = start + readSoFar dev start size results n
  remaining : left = size - readSoFar dev start size results n
  request : readSize ≤ bufferSize ∧ min bufferSize left ≤ readSize
  clear : ∀ i < readSoFar dev start size results n, isClearByte (dev.bytes (start + i)) = true

lemma readSoFar_mono (dev : ByteFile) (start size : Nat) (results : Nat → Option Nat) {n m : Nat}
    (h : n ≤ m) :
    readSoFar dev start size results n ≤ readSoFar dev start size results m := by
  have hoffered := offered_mono results h
  unfold readSoFar
  omega

lemma readSoFar_le (dev : ByteFile) (start size : Nat) (results : Nat → Option Nat) (n : Nat) :
    readSoFar dev start size results n ≤ size ∧ readSoFar dev start size results n ≤
      dev.size - start := by
  unfold readSoFar
  omega

variable {n pos readSize left : Nat}

/-- One call reads the next bytes of the area. -/
lemma ReadingAt.call (h : ReadingAt dev start size results n pos readSize left) {k : Nat}
    (hk : results n = some k) :
    min k (min (if left < readSize then left else readSize) (dev.size - pos)) =
      readSoFar dev start size results (n + 1) - readSoFar dev start size results n ∧
    readSoFar dev start size results n ≤ readSoFar dev start size results (n + 1) := by
  have hrequest : (if left < readSize then left else readSize) =
      min bufferSize (size - readSoFar dev start size results n) := by
    obtain ⟨hmax, hmin⟩ := h.request
    rw [← h.remaining]
    split_ifs
    · omega
    · omega
  have htransferred :=
    @transferred_cut_eq size (dev.size - start) (readSoFar dev start size results n)
    (offered results n)
    k rfl
  have hsum : readSoFar dev start size results n + min k
      (min (if left < readSize then left else readSize)
      (dev.size - pos)) = readSoFar dev start size results (n + 1) := by
    rw [hrequest, h.position, ← Nat.sub_sub, htransferred, readSoFar, offered_succ hk]
  omega

lemma ReadingAt.next (h : ReadingAt dev start size results n pos readSize left) {k : Nat}
    (hk : results n = some k)
    (hclear : ∀ i < readSoFar dev start size results (n + 1) - readSoFar dev start size results n,
      isClearByte (dev.bytes (pos + i)) = true) :
    ReadingAt dev start size results (n + 1)
      (pos + (readSoFar dev start size results (n + 1) - readSoFar dev start size results n))
      (if left < readSize then left else readSize)
      (left - (readSoFar dev start size results (n + 1) - readSoFar dev start size results n)) := by
  obtain ⟨-, hmono⟩ := h.call hk
  obtain ⟨hmax, hmin⟩ := h.request
  have hpos := h.position
  have hleft := h.remaining
  constructor
  · intro i hi
    by_cases hin : i = n
    · rw [hin, hk]
      simp
    · exact h.noError i (by omega)
  · omega
  · omega
  · split_ifs
    · omega
    · omega
  · intro i hi
    by_cases hold : i < readSoFar dev start size results n
    · exact h.clear i hold
    · have hbyte := hclear (i - readSoFar dev start size results n) (by omega)
      rwa [hpos, show start + readSoFar dev start size results n +
        (i - readSoFar dev start size results n) = start + i
        by omega] at hbyte

/-- The loop answers that everything is clear when it has read everything. Else it was given up,
because of a byte that is not clear if there is an answer. -/
lemma ReadingAt.result (h : ReadingAt dev start size results n pos readSize left) {fuel : Nat}
    {answer : Option Bool}
    (hrun : clearReads dev results fuel n pos readSize left = some answer) :
    answer = some true ∧ ReadsAll dev start size results ∧ AreaClear dev start size ∨
      answer ≠ some true ∧ ReadsStop dev start size results ∧
        (answer = some false → ¬AreaClear dev start size) := by
  induction fuel generalizing n pos readSize left with
  | zero => simp [clearReads] at hrun
  | succ fuel ih =>
    have hle := readSoFar_le dev start size results n
    rw [clearReads] at hrun
    by_cases hdone : left = 0
    · rw [if_pos hdone] at hrun
      obtain rfl : some true = answer := by simpa using hrun
      have hall : readSoFar dev start size results n = size := by
        have := h.remaining
        omega
      refine .inl ⟨rfl, ⟨n, h.noError, hall⟩, fun k hlow hhigh => ⟨by omega, ?_⟩⟩
      have hbyte := h.clear (k - start) (by omega)
      rwa [show start + (k - start) = k by omega] at hbyte
    · rw [if_neg hdone] at hrun
      dsimp only at hrun
      cases hk : results n with
      | none =>
        rw [hk] at hrun
        obtain rfl : none = answer := by simpa [readCall] using hrun
        have hshort : readSoFar dev start size results n < size := by
          have := h.remaining
          omega
        exact .inr ⟨by simp, ⟨n, h.noError, .inl ⟨hk, hshort⟩⟩, fun hfalse => by simp at hfalse⟩
      | some k =>
        obtain ⟨hcount, hmono⟩ := h.call hk
        have hnext := fun hclear => h.next hk hclear
        rw [hk] at hrun
        dsimp only [readCall, Option.map_some] at hrun
        rw [hcount] at hrun
        by_cases hclear :
            (List.range (readSoFar dev start size results (n + 1) - readSoFar dev start size
            results n)).all
            (fun i => isClearByte (dev.bytes (pos + i))) = true
        · rw [if_pos hclear] at hrun
          refine ih (hnext ?_) hrun
          intro i hi
          exact List.all_eq_true.mp hclear i (List.mem_range.mpr hi)
        · rw [if_neg hclear] at hrun
          obtain rfl : some false = answer := by simpa using hrun
          obtain ⟨i, hi, hbyte⟩ :
              ∃ i < readSoFar dev start size results (n + 1) - readSoFar dev start size results n,
              isClearByte (dev.bytes (pos + i)) = false := by
            simpa using hclear
          have hle' := readSoFar_le dev start size results (n + 1)
          have hpos := h.position
          refine .inr ⟨by simp, ⟨n + 1, ?_,
            .inr ⟨readSoFar dev start size results n + i, by omega, ?_⟩⟩, ?_⟩
          · intro j hj
            by_cases hjn : j = n
            · rw [hjn, hk]
              simp
            · exact h.noError j (by omega)
          · rwa [hpos, Nat.add_assoc] at hbyte
          · intro _ harea
            have := (harea (pos + i) (by omega) (by omega)).2
            rw [hbyte] at this
            simp at this

/-- If the calls come to an end, then so does the loop. -/
lemma ReadingAt.ends (h : ReadingAt dev start size results n pos readSize left) {m : Nat}
    (hcalls : ∀ i < m, results i ≠ none) (hend : results m = none ∨
      readSoFar dev start size results m = size ∨
      ∃ i < readSoFar dev start size results m, isClearByte (dev.bytes (start + i)) = false)
        (hnm : n ≤ m) :
    ∃ fuel answer, clearReads dev results fuel n pos readSize left = some answer := by
  induction hd : m - n generalizing n pos readSize left with
  | zero =>
    obtain rfl : n = m := by omega
    by_cases hdone : left = 0
    · exact ⟨1, _, by rw [clearReads, if_pos hdone]⟩
    · have hk : results n = none := by
        rcases hend with hend | hend | ⟨i, hi, hbyte⟩
        · exact hend
        · have := h.remaining
          omega
        · rw [h.clear i hi] at hbyte
          simp at hbyte
      exact ⟨1, _, by rw [clearReads, if_neg hdone, hk]; rfl⟩
  | succ d ih =>
    by_cases hdone : left = 0
    · exact ⟨1, _, by rw [clearReads, if_pos hdone]⟩
    · obtain ⟨k, hk⟩ := Option.ne_none_iff_exists'.mp (hcalls n (by omega))
      obtain ⟨hcount, hmono⟩ := h.call hk
      by_cases hclear :
          (List.range (readSoFar dev start size results (n + 1) - readSoFar dev start size
          results n)).all
          (fun i => isClearByte (dev.bytes (pos + i))) = true
      · have hnext := h.next hk (fun i hi => List.all_eq_true.mp hclear i (List.mem_range.mpr hi))
        obtain ⟨fuel, answer, hrun⟩ := ih hnext (by omega) (by omega)
        refine ⟨fuel + 1, answer, ?_⟩
        rw [clearReads, if_neg hdone, hk]
        dsimp only [readCall, Option.map_some]
        rw [hcount, if_pos hclear]
        exact hrun
      · refine ⟨1, some false, ?_⟩
        rw [clearReads, if_neg hdone, hk]
        dsimp only [readCall, Option.map_some]
        rw [hcount, if_neg hclear]

lemma readingAt_start (dev : ByteFile) (start size : Nat) (results : Nat → Option Nat) :
    ReadingAt dev start size results 0 start bufferSize size := by
  have hzero : readSoFar dev start size results 0 = 0 := Nat.min_zero _
  refine ⟨fun i hi => by omega, by omega, by omega, ⟨le_refl _, by omega⟩, fun i hi => by omega⟩

/-- The loop returns if it is given up or everything is read. -/
lemma clearReads_returns (h : ReadsStop dev start size results ∨ ReadsAll dev start size results) :
    ∃ fuel answer, clearReads dev results fuel 0 start bufferSize size = some answer := by
  have hstart := readingAt_start dev start size results
  rcases h with ⟨n, hcalls, ⟨herror, -⟩ | hbyte⟩ | ⟨n, hcalls, hall⟩
  · exact hstart.ends hcalls (.inl herror) (Nat.zero_le n)
  · exact hstart.ends hcalls (.inr (.inr hbyte)) (Nat.zero_le n)
  · exact hstart.ends hcalls (.inr (.inl hall)) (Nat.zero_le n)

/-- What was given up was not read to its end with clear bytes only. -/
lemma ReadsStop.not_clear (hstop : ReadsStop dev start size results)
    (hall : ReadsAll dev start size results) :
    ¬AreaClear dev start size := by
  intro hclear
  obtain ⟨n, hcalls, ⟨herror, hshort⟩ | ⟨i, hi, hbyte⟩⟩ := hstop
  · obtain ⟨m, hcalls', hall⟩ := hall
    by_cases hnm : n < m
    · exact hcalls' n hnm herror
    · have := readSoFar_mono dev start size results (Nat.le_of_not_lt hnm)
      have := (readSoFar_le dev start size results n).1
      omega
  · have hle := (readSoFar_le dev start size results n).1
    have := (hclear (start + i) (by omega) (by omega)).2
    rw [hbyte] at this
    simp at this

lemma ReadsStop.size_ne (hstop : ReadsStop dev start size results) : size ≠ 0 := by
  obtain ⟨n, -, ⟨-, hshort⟩ | ⟨i, hi, -⟩⟩ := hstop
  · omega
  · have hle := (readSoFar_le dev start size results n).1
    omega

/-- The check returns, and what it returns without an error is right. -/
def AreaAnswered (dev : DeviceFile) (start size : Nat) (calls : DeviceCalls) : Prop :=
  ∃ fuel answer, checkIfAreaIsClearOn dev start size calls fuel = some answer ∧
    ∀ clear, answer = some clear → (clear = true ↔ AreaClear dev.toByteFile start size)

lemma seekPosition_cases {dev : DeviceFile} {start pos : Nat}
    (h : seekPosition dev start = some pos) :
    pos = start ∨ dev.size < start ∧ start = 2 ^ 64 - 1 ∧ pos = 0 := by
  unfold seekPosition at h
  split_ifs at h with hstart hlast
  · exact .inl (Option.some.inj h).symm
  · exact .inr ⟨by omega, hlast, (Option.some.inj h).symm⟩

/-- Nothing of an area behind the end of the device exists. -/
lemma areaClear_beyond {start : Nat} (hstart : dev.size < start) : AreaClear dev start size ↔
    size = 0 := by
  constructor
  · intro hclear
    by_contra hsize
    have := (hclear start (le_refl _) (by omega)).1
    omega
  · intro hsize k hlow hhigh
    omega

/-- The check does what it should exactly if the device or the place can not be opened, or reading
from the position that was set is given up, or everything is read from there and that is the
area. -/
theorem checkIfAreaIsClear_answered_iff (dev : DeviceFile) (start size : Nat)
    (calls : DeviceCalls) :
    AreaAnswered dev start size calls ↔
      (calls.opens = true → ∀ pos, seekPosition dev start = some pos →
        ReadsStop dev.toByteFile pos size calls.results ∨
          ReadsAll dev.toByteFile pos size calls.results ∧ (pos = start ∨ size = 0)) := by
  unfold AreaAnswered checkIfAreaIsClearOn
  cases hopen : calls.opens with
  | false => simp
  | true =>
    cases hseek : seekPosition dev start with
    | none => simp
    | some pos =>
      simp only [Bool.true_eq_false, if_false, true_implies, Option.some.injEq, forall_eq']
      have hresult :=
        @ReadingAt.result _ _ _ _ _ _ _ _ (readingAt_start dev.toByteFile pos size calls.results)
      constructor
      · rintro ⟨fuel, answer, hrun, hright⟩
        rcases hresult hrun with ⟨rfl, hall, -⟩ | ⟨-, hstop, -⟩
        · refine .inr ⟨hall, (seekPosition_cases hseek).imp_right ?_⟩
          rintro ⟨hbeyond, -, -⟩
          exact (areaClear_beyond hbeyond).mp ((hright true rfl).mp rfl)
        · exact .inl hstop
      · intro hreads
        obtain ⟨fuel, answer, hrun⟩ := clearReads_returns (hreads.imp_right And.left)
        refine ⟨fuel, answer, hrun, ?_⟩
        rintro clear rfl
        rcases hresult hrun with ⟨htrue, hall, hclear⟩ | ⟨hne, hstop, hfalse⟩
        · have hplace : pos = start ∨ size = 0 := by
            rcases hreads with hstop | ⟨-, hplace⟩
            · exact absurd hclear (hstop.not_clear hall)
            · exact hplace
          refine iff_of_true (Option.some.inj htrue) ?_
          rcases hplace with rfl | rfl
          · exact hclear
          · intro k hlow hhigh
            omega
        · have hfound : clear = false := by simpa using hne
          refine iff_of_false (by simp [hfound]) ?_
          rcases seekPosition_cases hseek with rfl | ⟨hbeyond, -, -⟩
          · exact hfalse (congrArg some hfound)
          · rw [areaClear_beyond hbeyond]
            exact hstop.size_ne

/-- A clear device that ends within the area is read forever, and a seek that fails for the last
position is not noticed. -/
theorem shortDevice_check_hangs :
    ¬AreaAnswered ⟨⟨512, fun _ => 0⟩, by decide⟩ 0 1024 ⟨true, fun _ => some 512⟩ ∧
      ¬AreaAnswered ⟨⟨512, fun _ => 0⟩, by decide⟩ (2 ^ 64 - 1) 512 ⟨true, fun _ => some 512⟩ := by
  constructor
  · rintro ⟨fuel, answer, hrun, -⟩
    rcases (readingAt_start ⟨512, fun _ => 0⟩ 0 1024 (fun _ => some 512)).result hrun with
      ⟨-, ⟨n, -, hall⟩, -⟩ | ⟨-, ⟨n, -, ⟨herror, -⟩ | ⟨i, -, hbyte⟩⟩, -⟩
    · have hle := (readSoFar_le ⟨512, fun _ => 0⟩ 0 1024 (fun _ => some 512) n).2
      dsimp only at hall hle
      omega
    · simp at herror
    · simp [isClearByte] at hbyte
  · rintro ⟨fuel, answer, hrun, hright⟩
    rcases (readingAt_start ⟨512, fun _ => 0⟩ 0 512 (fun _ => some 512)).result hrun with
      ⟨rfl, -, -⟩ | ⟨-, ⟨n, -, ⟨herror, -⟩ | ⟨i, -, hbyte⟩⟩, -⟩
    · have hmissing := ((hright true rfl).mp rfl (2 ^ 64 - 1) (le_refl _) (by decide)).1
      exact absurd hmissing (by decide)
    · simp at herror
    · simp [isClearByte] at hbyte

end Checking

section Clearing

variable {dev : ByteFile} {part : BootSwitchPartition} {results : Nat → Option Nat}

/-- How much of the partition exists. -/
def clearable (dev : ByteFile) (part : BootSwitchPartition) : Nat :=
  min part.size (dev.size - part.start)

/-- After so many calls nothing was written behind the partition: the count did not wrap, or the
device ends with the partition, or the calls did not transfer more than that. With a size of barely
more than 32 bits the buffer is also cut off at the end of the partition, if the count has not yet
wrapped there; but then nothing more may be transferred. -/
def StaysInside (dev : ByteFile) (part : BootSwitchPartition) (results : Nat → Option Nat)
    (n : Nat) : Prop :=
  part.size < 2 ^ 32 ∨ dev.size ≤ part.start + part.size ∨ offered results n ≤ part.size ∨
    ∃ j < n, offered results j < 2 ^ 32 ∧ part.size < offered results (j + 1) ∧
      offered results n = offered results (j + 1)

/-- The writes come to an end: with an error, with the end of the device, or with the whole
partition written, which is noticed with 32 bits only. -/
def WritesEnd (dev : ByteFile) (part : BootSwitchPartition) (results : Nat → Option Nat) : Prop :=
  ∃ n, (∀ i < n, results i ≠ none) ∧ StaysInside dev part results n ∧ (results n = none ∨
    (clearable dev part ≤ offered results n ∧
      (part.size < 2 ^ 32 ∨ dev.size ≤ part.start + part.size)))

lemma StaysInside.before {n m : Nat} (h : StaysInside dev part results m) (hnm : n ≤ m) :
    StaysInside dev part results n := by
  by_cases hwide : part.size < 2 ^ 32
  · exact .inl hwide
  · rcases h with h | h | h | ⟨j, hj, hlow, hhigh, hsame⟩
    · exact .inl h
    · exact .inr (.inl h)
    · exact .inr (.inr (.inl ((offered_mono results hnm).trans h)))
    · by_cases hjn : n ≤ j
      · have := offered_mono results hjn
        exact .inr (.inr (.inl (by omega)))
      · have hle := offered_mono results hnm
        have hge := @offered_mono results (j + 1) n (by omega)
        exact .inr (.inr (.inr ⟨j, by omega, hlow, hhigh, by omega⟩))

/-- What was done when so many bytes are written. -/
structure ClearedTo (dev : ByteFile) (part : BootSwitchPartition) (done : Nat) (run : ClearRun) :
    Prop where
  position : run.pos = part.start + done
  count : run.clearCount = done % 2 ^ 32
  bytes : ∀ k, run.bytes k = if part.start ≤ k ∧ k < part.start + done then 0 else dev.bytes k
  inside : ∀ w ∈ run.writes, part.start ≤ w.1 ∧ w.1 + w.2 ≤ part.start + done
  reached : done = 0 ∨ ∃ w ∈ run.writes, w.2 ≠ 0 ∧ part.start + done ≤ w.1 + w.2

lemma ClearedTo.start (dev : ByteFile) (part : BootSwitchPartition) :
    ClearedTo dev part 0 ⟨part.start, bufferSize, 0, dev.bytes, []⟩ := by
  refine ⟨rfl, rfl, fun k => ?_, fun w hw => by simp at hw, .inl rfl⟩
  rw [if_neg (by omega)]

lemma ClearedTo.write {done : Nat} {run : ClearRun} (h : ClearedTo dev part done run)
    (count clearSize : Nat) :
    ClearedTo dev part (done + count) ⟨run.pos + count, clearSize,
      (run.clearCount + count) % 2 ^ 32,
      writeAt run.bytes run.pos (List.replicate count 0), run.writes ++ [(run.pos, count)]⟩ := by
  have hpos := h.position
  refine ⟨by dsimp only; omega, by dsimp only; rw [h.count]; omega, fun k => ?_, fun w hw => ?_, ?_⟩
  · dsimp only
    by_cases hin : run.pos ≤ k ∧ k < run.pos + count
    · rw [if_pos (by omega)]
      unfold writeAt
      rw [if_pos hin.1, List.getElem?_replicate, if_pos (by omega), Option.getD_some]
    · rw [writeAt_outside (by rw [List.length_replicate]; omega), h.bytes k]
      by_cases hold : part.start ≤ k ∧ k < part.start + done
      · rw [if_pos hold, if_pos (by omega)]
      · rw [if_neg hold, if_neg (by omega)]
  · rcases List.mem_append.mp hw with hw | hw
    · have := h.inside w hw
      omega
    · obtain rfl : w = (run.pos, count) := by simpa using hw
      dsimp only
      omega
  · by_cases hcount : count = 0
    · rw [hcount]
      exact h.reached.imp_right (fun ⟨w, hw, hreached⟩ => ⟨w, List.mem_append_left _ hw, hreached⟩)
    · exact .inr ⟨(run.pos, count), List.mem_append_right _ List.mem_cons_self,
        hcount, by dsimp only; omega⟩

/-- The variables of the loop after a number of calls, as long as everything was written inside. A
buffer that was cut off before the count wrapped stays longer than what is left. -/
structure ClearingAt (dev : ByteFile) (part : BootSwitchPartition) (results : Nat → Option Nat)
    (n done : Nat)
    (run : ClearRun) : Prop where
  cleared : ClearedTo dev part done run
  noError : ∀ i < n, results i ≠ none
  stays : StaysInside dev part results n
  tracks : done = min (clearable dev part) (offered results n)
  request : run.clearSize ≤ bufferSize ∧ min bufferSize (part.size - done) ≤ run.clearSize ∧
    (2 ^ 32 ≤ done → min bufferSize (part.size - done + 1) ≤ run.clearSize)

lemma ClearingAt.start (dev : ByteFile) (part : BootSwitchPartition) (results : Nat → Option Nat) :
    ClearingAt dev part results 0 0 ⟨part.start, bufferSize, 0, dev.bytes, []⟩ := by
  refine ⟨ClearedTo.start dev part,
    fun i hi => by omega, .inr (.inr (.inl (Nat.zero_le _))), ?_, ?_⟩
  · exact (Nat.min_zero _).symm
  · exact ⟨le_refl _, Nat.min_le_left _ _, fun _ => Nat.min_le_left _ _⟩

/-- The size that the loop asks for. -/
def clearRequest (part : BootSwitchPartition) (run : ClearRun) : Nat :=
  if part.size - run.clearCount < bufferSize then part.size - run.clearCount else run.clearSize

variable {n done : Nat} {run : ClearRun}

lemma ClearingAt.request_eq (h : ClearingAt dev part results n done run) :
    clearRequest part run = if done < 2 ^ 32 then min bufferSize (part.size - done)
      else run.clearSize := by
  have hcount := h.cleared.count
  have htracks := h.tracks
  obtain ⟨hmax, hmin, -⟩ := h.request
  unfold clearRequest clearable bufferSize at *
  by_cases hwrap : done < 2 ^ 32
  · rw [if_pos hwrap, hcount, Nat.mod_eq_of_lt hwrap]
    split_ifs <;> omega
  · rw [if_neg hwrap, if_neg (by omega)]

/-- The next call writes inside, or it does not stay inside at all. -/
lemma ClearingAt.call (h : ClearingAt dev part results n done run) {k : Nat}
    (hk : results n = some k)
    (hpos : run.pos < dev.size) (hcount : run.clearCount < part.size) :
    (StaysInside dev part results (n + 1) ∧
      done + min k (min (clearRequest part run) (dev.size - run.pos)) =
      min (clearable dev part) (offered results (n + 1))) ∨
    (¬StaysInside dev part results (n + 1) ∧
      part.size < done + min k (min (clearRequest part run) (dev.size - run.pos))) := by
  have hnext := offered_succ hk
  have hposition := h.cleared.position
  have htracks := h.tracks
  have hmod := h.cleared.count
  obtain ⟨hmax, hmin, hwrapped⟩ := h.request
  rw [h.request_eq]
  by_cases hwrap : done < 2 ^ 32
  · left
    rw [if_pos hwrap]
    rw [hmod, Nat.mod_eq_of_lt hwrap] at hcount
    have hall : done = offered results n := by
      unfold clearable at htracks
      omega
    refine ⟨?_, ?_⟩
    · by_cases hinside : offered results (n + 1) ≤ part.size
      · exact .inr (.inr (.inl hinside))
      · exact .inr (.inr (.inr ⟨n, by omega, by omega, by omega, rfl⟩))
    · rw [hposition, ← Nat.sub_sub, transferred_cut_eq htracks, hnext]
      rfl
  · rw [if_neg hwrap]
    have hlong := hwrapped (by omega)
    have hsize : done ≤ part.size := by
      unfold clearable at htracks
      omega
    by_cases hshort : dev.size ≤ part.start + part.size
    · left
      refine ⟨.inr (.inl hshort), ?_⟩
      have harea : clearable dev part = dev.size - part.start := by
        unfold clearable
        omega
      rw [harea] at htracks ⊢
      rw [hposition, ← Nat.sub_sub, transferred_eq htracks hmax (by omega), hnext]
    have hfull : clearable dev part = part.size := by
      unfold clearable
      omega
    rw [hfull] at htracks ⊢
    rcases h.stays with hstays | hstays | hstays | ⟨j, hj, hlow, hhigh, hsame⟩
    · omega
    · exact absurd hstays hshort
    · by_cases hinside : offered results (n + 1) ≤ part.size
      · left
        refine ⟨.inr (.inr (.inl hinside)), ?_⟩
        unfold bufferSize at *
        omega
      · right
        refine ⟨?_, by unfold bufferSize at *; omega⟩
        rintro (hno | hno | hno | ⟨j, hj, hlow, hhigh, hsame⟩)
        · omega
        · exact hshort hno
        · exact hinside hno
        · by_cases hjn : j = n
          · rw [hjn] at hlow
            omega
          · have := @offered_mono results (j + 1) n (by omega)
            omega
    · by_cases hzero : k = 0
      · have hstill : offered results (n + 1) = offered results n := by
          rw [hnext, hzero]
          omega
        left
        refine ⟨.inr (.inr (.inr ⟨j, by omega, hlow, hhigh, by omega⟩)), ?_⟩
        omega
      · right
        refine ⟨?_, by unfold bufferSize at *; omega⟩
        have hmore : offered results n < offered results (n + 1) := by
          unfold bufferSize at hnext
          omega
        rintro (hno | hno | hno | ⟨j', hj', hlow', hhigh', hsame'⟩)
        · omega
        · exact hshort hno
        · omega
        · by_cases hjn : j' = n
          · rw [hjn] at hlow'
            omega
          · have := @offered_mono results (j' + 1) n (by omega)
            omega

/-- The variables after one more call that stays inside. -/
lemma ClearingAt.next (h : ClearingAt dev part results n done run) {k : Nat}
    (hk : results n = some k)
    (hcount : run.clearCount < part.size) (hstays : StaysInside dev part results (n + 1))
    (hdone : done + min k (min (clearRequest part run) (dev.size - run.pos)) =
      min (clearable dev part) (offered results (n + 1))) :
    ClearingAt dev part results (n + 1) (done + min k
      (min (clearRequest part run) (dev.size - run.pos)))
      ⟨run.pos + min k (min (clearRequest part run) (dev.size - run.pos)), clearRequest part run,
        (run.clearCount + min k (min (clearRequest part run) (dev.size - run.pos))) % 2 ^ 32,
        writeAt run.bytes run.pos (List.replicate
          (min k (min (clearRequest part run) (dev.size - run.pos))) 0),
        run.writes ++ [(run.pos, min k (min (clearRequest part run) (dev.size - run.pos)))]⟩ := by
  have hrequest := h.request_eq
  obtain ⟨hmax, hmin, hwrapped⟩ := h.request
  generalize ht : min k (min (clearRequest part run) (dev.size - run.pos)) = t at *
  refine ⟨h.cleared.write t (clearRequest part run), ?_, hstays, hdone, ?_⟩
  · intro i hi
    by_cases hin : i = n
    · rw [hin, hk]
      simp
    · exact h.noError i (by omega)
  · dsimp only
    rw [hrequest]
    clear hdone ht hrequest
    by_cases hwrap : done < 2 ^ 32
    · rw [if_pos hwrap]
      have hbelow : done < part.size := by
        have := h.cleared.count
        omega
      exact ⟨Nat.min_le_left _ _, by omega, fun hnext => by omega⟩
    · rw [if_neg hwrap]
      have hlong := hwrapped (by omega)
      exact ⟨hmax, by omega, fun hnext => by omega⟩

/-- One round of the loop. -/
lemma clearWrites_succ (fuel : Nat) (hcount : run.clearCount < part.size) :
    clearWrites dev part.size results (fuel + 1) n run =
      match writeCall dev run.pos (clearRequest part run) (results n) with
      | none => some { run with clearSize := clearRequest part run }
      | some t =>
        clearWrites dev part.size results fuel (n + 1) ⟨run.pos + t, clearRequest part run,
          (run.clearCount + t) % 2 ^ 32, writeAt run.bytes run.pos (List.replicate t 0),
            run.writes ++ [(run.pos, t)]⟩ := by
  rw [clearWrites, if_pos hcount]
  rfl

lemma ClearedTo.resized (h : ClearedTo dev part done run) (clearSize : Nat) :
    ClearedTo dev part done { run with clearSize := clearSize } :=
  ⟨h.position, h.count, h.bytes, h.inside, h.reached⟩

/-- What was written stays written. -/
lemma ClearedTo.result (h : ClearedTo dev part done run) {fuel : Nat} {final : ClearRun}
    (hrun : clearWrites dev part.size results fuel n run = some final) :
      ∃ done' ≥ done, ClearedTo dev part done' final := by
  induction fuel generalizing n done run with
  | zero => simp [clearWrites] at hrun
  | succ fuel ih =>
    by_cases hcount : run.clearCount < part.size
    · rw [clearWrites_succ fuel hcount] at hrun
      cases hcall : writeCall dev run.pos (clearRequest part run) (results n) with
      | none =>
        rw [hcall] at hrun
        obtain rfl : { run with clearSize := clearRequest part run } = final := by simpa using hrun
        exact ⟨done, le_refl _, h.resized _⟩
      | some t =>
        rw [hcall] at hrun
        obtain ⟨done', hle, hdone⟩ := ih (h.write t (clearRequest part run)) hrun
        exact ⟨done', by omega, hdone⟩
    · rw [clearWrites, if_neg hcount] at hrun
      obtain rfl : run = final := by simpa using hrun
      exact ⟨done, le_refl _, h⟩

/-- What a run wrote lies in the partition. -/
def WritesInside (part : BootSwitchPartition) (run : ClearRun) : Prop :=
  ∀ w ∈ run.writes, w.2 ≠ 0 → part.start ≤ w.1 ∧ w.1 + w.2 ≤ part.start + part.size

lemma ClearedTo.le_size (h : ClearedTo dev part done run) (hinside : WritesInside part run) :
    done ≤ part.size := by
  rcases h.reached with hzero | ⟨w, hw, hbytes, hreached⟩
  · omega
  · have := (hinside w hw hbytes).2
    omega

/-- A loop that ended inside: its calls came to an end, and it wrote what it should. -/
lemma ClearingAt.result (h : ClearingAt dev part results n done run) {fuel : Nat} {final : ClearRun}
    (hrun : clearWrites dev part.size results fuel n run = some final)
    (hinside : WritesInside part final) :
    WritesEnd dev part results := by
  induction fuel generalizing n done run with
  | zero => simp [clearWrites] at hrun
  | succ fuel ih =>
    by_cases hcount : run.clearCount < part.size
    · rw [clearWrites_succ fuel hcount] at hrun
      by_cases hpos : dev.size ≤ run.pos
      · -- The device ends here, inside of the partition.
        have hposition := h.cleared.position
        have htracks := h.tracks
        refine ⟨n, h.noError, h.stays, .inr ?_⟩
        unfold clearable at *
        omega
      · cases hk : results n with
        | none => exact ⟨n, h.noError, h.stays, .inl hk⟩
        | some k =>
          rw [hk, writeCall, if_neg hpos, Option.map_some] at hrun
          dsimp only at hrun
          rcases h.call hk (by omega) hcount with ⟨hstays, hdone⟩ | ⟨-, hbeyond⟩
          · exact ih (h.next hk hcount hstays hdone) hrun
          · obtain ⟨done', hle, hdone'⟩ := (h.cleared.write _ (clearRequest part run)).result hrun
            have := hdone'.le_size hinside
            omega
    · have hmod := h.cleared.count
      have htracks := h.tracks
      refine ⟨n, h.noError, h.stays, .inr ?_⟩
      unfold clearable at *
      omega

lemma ClearingAt.done_le (h : ClearingAt dev part results n done run) : done ≤ part.size := by
  have htracks := h.tracks
  unfold clearable at htracks
  omega

/-- The loop ends when its count has reached the size or when a call fails. -/
lemma ClearingAt.stops (h : ClearingAt dev part results n done run)
    (hstop : part.size ≤ run.clearCount ∨ writeCall dev run.pos (clearRequest part run)
      (results n) = none) :
    ∃ fuel final done', clearWrites dev part.size results fuel n run = some final ∧
      ClearedTo dev part done' final ∧
      done' ≤ part.size := by
  by_cases hcount : run.clearCount < part.size
  · have hcall := hstop.resolve_left (by omega)
    exact ⟨1, _, done, by rw [clearWrites_succ 0 hcount, hcall], h.cleared.resized _, h.done_le⟩
  · exact ⟨1, run, done, by rw [clearWrites, if_neg hcount], h.cleared, h.done_le⟩

/-- If the writes come to an end inside, then so does the loop. -/
lemma ClearingAt.ends (h : ClearingAt dev part results n done run) {m : Nat}
    (hcalls : ∀ i < m, results i ≠ none)
    (hstays : StaysInside dev part results m) (hend : results m = none ∨
      (clearable dev part ≤ offered results m ∧
        (part.size < 2 ^ 32 ∨ dev.size ≤ part.start + part.size))) (hnm : n ≤ m) :
    ∃ fuel final done', clearWrites dev part.size results fuel n run = some final ∧
      ClearedTo dev part done' final ∧
      done' ≤ part.size := by
  induction hd : m - n generalizing n done run with
  | zero =>
    obtain rfl : n = m := by omega
    apply h.stops
    rcases hend with hend | hend
    · right
      rw [hend, writeCall]
      split_ifs <;> rfl
    · by_cases hpos : dev.size ≤ run.pos
      · exact .inr (if_pos hpos)
      · left
        have hmod := h.cleared.count
        have hposition := h.cleared.position
        have htracks := h.tracks
        unfold clearable at *
        omega
  | succ d ih =>
    obtain ⟨k, hk⟩ := Option.ne_none_iff_exists'.mp (hcalls n (by omega))
    by_cases hcount : run.clearCount < part.size
    swap
    · exact h.stops (.inl (by omega))
    by_cases hpos : dev.size ≤ run.pos
    · exact h.stops (.inr (if_pos hpos))
    rcases h.call hk (by omega) hcount with ⟨hnext, hdone⟩ | ⟨hout, -⟩
    · obtain ⟨fuel, final, done', hrun, hcleared, hle⟩ :=
        ih (h.next hk hcount hnext hdone) (by omega) (by omega)
      refine ⟨fuel + 1, final, done', ?_, hcleared, hle⟩
      rw [clearWrites_succ fuel hcount, hk, writeCall, if_neg hpos]
      exact hrun
    · exact absurd (hstays.before (by omega)) hout

/-- Writing to a place in front of the partition changes nothing: the partition or the device is
empty, or the first call that is not without effect fails. -/
def WritesNothing (dev : ByteFile) (size : Nat) (results : Nat → Option Nat) : Prop :=
  size = 0 ∨ dev.size = 0 ∨ ∃ n, (∀ i < n, results i = some 0) ∧ results n = none

/-- The writes of the rounds before are kept. -/
lemma clearWrites_writes {fuel : Nat} {final : ClearRun}
    (hrun : clearWrites dev part.size results fuel n run = some final) :
      ∀ w ∈ run.writes, w ∈ final.writes := by
  induction fuel generalizing n run with
  | zero => simp [clearWrites] at hrun
  | succ fuel ih =>
    intro w hw
    by_cases hcount : run.clearCount < part.size
    · rw [clearWrites_succ fuel hcount] at hrun
      cases hcall : writeCall dev run.pos (clearRequest part run) (results n) with
      | none =>
        rw [hcall] at hrun
        obtain rfl : { run with clearSize := clearRequest part run } = final := by simpa using hrun
        exact hw
      | some t =>
        rw [hcall] at hrun
        exact ih hrun w (List.mem_append_left _ hw)
    · rw [clearWrites, if_neg hcount] at hrun
      obtain rfl : run = final := by simpa using hrun
      exact hw

/-- A run that has done nothing so far. -/
structure NothingDone (dev : ByteFile) (run : ClearRun) : Prop where
  position : run.pos = 0
  count : run.clearCount = 0
  bytes : run.bytes = dev.bytes
  writes : ∀ w ∈ run.writes, w.2 = 0
  request : 0 < run.clearSize

lemma NothingDone.request_pos (h : NothingDone dev run) (hsize : 0 < part.size) :
    0 < clearRequest part run := by
  have hcount := h.count
  have hrequest := h.request
  unfold clearRequest
  split_ifs <;> omega

lemma NothingDone.round (h : NothingDone dev run) (hsize : 0 < part.size) :
    NothingDone dev ⟨run.pos + 0, clearRequest part run, (run.clearCount + 0) % 2 ^ 32,
      writeAt run.bytes run.pos (List.replicate 0 0), run.writes ++ [(run.pos, 0)]⟩ := by
  have hcount := h.count
  refine ⟨h.position, by dsimp only; omega, ?_, fun w hw => ?_, ?_⟩
  · funext k
    rw [← h.bytes]
    exact writeAt_outside (by simp only [List.length_replicate]; omega)
  · rcases List.mem_append.mp hw with hw | hw
    · exact h.writes w hw
    · obtain rfl : w = (run.pos, 0) := by simpa using hw
      rfl
  · exact h.request_pos hsize

/-- The loop ends without having done anything if the first call with an effect would fail. -/
lemma NothingDone.ends (h : NothingDone dev run) (hsize : 0 < part.size) {m : Nat}
    (hcalls : ∀ i < m, results i = some 0) (hend : results m = none ∨ dev.size = 0) (hnm : n ≤ m) :
    ∃ fuel final, clearWrites dev part.size results fuel n run = some final ∧
      NothingDone dev final := by
  have hcount : run.clearCount < part.size := by
    rw [h.count]
    exact hsize
  induction hd : m - n generalizing n run with
  | zero =>
    obtain rfl : n = m := by omega
    have hcall : writeCall dev run.pos (clearRequest part run) (results n) = none := by
      unfold writeCall
      rcases hend with hnone | hempty
      · rw [hnone]
        split_ifs <;> rfl
      · exact if_pos (by omega)
    refine ⟨1, { run with clearSize := clearRequest part run },
      by rw [clearWrites_succ 0 hcount, hcall], ?_⟩
    exact ⟨h.position, h.count, h.bytes, h.writes, h.request_pos hsize⟩
  | succ d ih =>
    by_cases hempty : dev.size = 0
    · have hcall : writeCall dev run.pos (clearRequest part run) (results n) = none :=
        if_pos (by omega)
      refine ⟨1, { run with clearSize := clearRequest part run },
        by rw [clearWrites_succ 0 hcount, hcall], ?_⟩
      exact ⟨h.position, h.count, h.bytes, h.writes, h.request_pos hsize⟩
    · have hround := h.round hsize
      have hless : n + 1 ≤ m := by omega
      obtain ⟨fuel, final, hrun, hfinal⟩ :=
        ih hround hless (by rw [hround.count]; exact hsize) (by omega)
      refine ⟨fuel + 1, final, ?_, hfinal⟩
      have hpos : ¬dev.size ≤ run.pos := by
        rw [h.position]
        omega
      rw [clearWrites_succ fuel hcount, hcalls n (by omega), writeCall, if_neg hpos,
        Option.map_some, Nat.zero_min]
      dsimp only
      exact hrun

/-- A loop that wrote in front of its partition only what is not there has done nothing. -/
lemma NothingDone.result (h : NothingDone dev run) (hsize : 0 < part.size) (hdev : dev.size ≠ 0)
    (hstart : 0 < part.start)
    {fuel : Nat} {final : ClearRun} (hrun : clearWrites dev part.size results fuel n run =
      some final)
    (hinside : WritesInside part final) (hcalls : ∀ i < n, results i = some 0) :
    WritesNothing dev part.size results := by
  induction fuel generalizing n run with
  | zero => simp [clearWrites] at hrun
  | succ fuel ih =>
    have hcount : run.clearCount < part.size := by
      rw [h.count]
      exact hsize
    have hpos : ¬dev.size ≤ run.pos := by
      rw [h.position]
      omega
    rw [clearWrites_succ fuel hcount, writeCall, if_neg hpos] at hrun
    cases hk : results n with
    | none => exact .inr (.inr ⟨n, hcalls, hk⟩)
    | some k =>
      rw [hk] at hrun
      dsimp only [Option.map_some] at hrun
      by_cases hzero : k = 0
      · rw [hzero, Nat.zero_min] at hrun
        refine ih (h.round hsize) hrun (fun i hi => ?_)
        by_cases hin : i = n
        · rw [hin, hk, hzero]
        · exact hcalls i (by omega)
      · have hrequest := h.request_pos hsize
        have hposition := h.position
        have hplace :=
          hinside _ (clearWrites_writes hrun _ (List.mem_append_right _ List.mem_cons_self))
        dsimp only at hplace
        omega

/-- The partition is cleared: the function returns, it writes inside of the partition only, and if
it returns TRUE then the partition is zero and nothing else has changed. -/
def ClearsPartition (dev : DeviceFile) (part : BootSwitchPartition) (calls : DeviceCalls) : Prop :=
  ∃ fuel res run, clearBootSwitchPartitionOn dev part calls fuel = some (res, run) ∧
    WritesInside part run ∧
    (res = true → ∀ k, run.bytes k = if part.start ≤ k ∧ k < part.start + part.size then 0
      else dev.bytes k)

lemma nothingDone_opened (dev : ByteFile) : NothingDone dev ⟨0, bufferSize, 0, dev.bytes, []⟩ :=
  ⟨rfl, rfl, rfl, fun w hw => by simp at hw, Nat.succ_pos 511⟩

/-- The loop as it starts behind a seek. -/
lemma clearBootSwitchPartitionOn_eq {dev : DeviceFile} {calls : DeviceCalls} {pos : Nat}
    (hopen : calls.opens = true)
    (hseek : seekPosition dev part.start = some pos) (fuel : Nat) :
    clearBootSwitchPartitionOn dev part calls fuel =
      (clearWrites dev.toByteFile part.size calls.results fuel 0 ⟨pos, bufferSize, 0,
        dev.bytes, []⟩).map
        (fun run => (run.clearCount == part.size, run)) := by
  unfold clearBootSwitchPartitionOn
  rw [if_neg (by simp [hopen]), hseek]

/-- What the writes have to be for a function that goes on behind a seek. -/
def WritesWell (dev : ByteFile) (part : BootSwitchPartition) (results : Nat → Option Nat)
    (pos : Nat) : Prop :=
  if pos = part.start then WritesEnd dev part results else WritesNothing dev part.size results

lemma ClearsPartition.writesWell {dev : DeviceFile} {calls : DeviceCalls}
    (h : ClearsPartition dev part calls)
    (hopen : calls.opens = true) {pos : Nat} (hseek : seekPosition dev part.start = some pos) :
    WritesWell dev.toByteFile part calls.results pos := by
  obtain ⟨fuel, res, run, hrun, hinside, -⟩ := h
  rw [clearBootSwitchPartitionOn_eq hopen hseek] at hrun
  obtain ⟨final, hfinal, hpair⟩ := Option.map_eq_some_iff.mp hrun
  obtain ⟨-, rfl⟩ := Prod.mk.inj hpair
  unfold WritesWell
  rcases seekPosition_cases hseek with rfl | ⟨hbeyond, hlast, rfl⟩
  · rw [if_pos rfl]
    exact (ClearingAt.start dev.toByteFile part calls.results).result hfinal hinside
  · rw [if_neg (by omega)]
    by_cases hsize : part.size = 0
    · exact .inl hsize
    by_cases hdev : dev.size = 0
    · exact .inr (.inl hdev)
    exact (nothingDone_opened dev.toByteFile).result (by omega) hdev (by omega) hfinal hinside
      (fun i hi => by omega)

lemma WritesEnd.clears {dev : DeviceFile} {calls : DeviceCalls}
    (h : WritesEnd dev.toByteFile part calls.results)
    (hopen : calls.opens = true) (hseek : seekPosition dev part.start = some part.start) :
    ClearsPartition dev part calls := by
  obtain ⟨m, hcalls, hstays, hend⟩ := h
  obtain ⟨fuel, final, done, hrun, hcleared, hle⟩ :=
    (ClearingAt.start dev.toByteFile part calls.results).ends hcalls hstays hend (Nat.zero_le m)
  refine ⟨fuel, final.clearCount == part.size, final, ?_, ?_, ?_⟩
  · rw [clearBootSwitchPartitionOn_eq hopen hseek, hrun]
    rfl
  · intro w hw _
    have := hcleared.inside w hw
    omega
  · intro hres k
    have hcount : final.clearCount = part.size := by simpa using hres
    obtain rfl : done = part.size := by
      have := hcleared.count
      omega
    exact hcleared.bytes k

lemma WritesNothing.clears {dev : DeviceFile} {calls : DeviceCalls}
    (h : WritesNothing dev.toByteFile part.size calls.results) (hopen : calls.opens = true)
    (hseek : seekPosition dev part.start = some 0) : ClearsPartition dev part calls := by
  have hopened := nothingDone_opened dev.toByteFile
  by_cases hsize : part.size = 0
  · refine ⟨1, true, ⟨0, bufferSize, 0, dev.bytes, []⟩, ?_,
      fun w hw => by simp at hw, fun _ k => ?_⟩
    · rw [clearBootSwitchPartitionOn_eq hopen hseek, clearWrites, if_neg (by dsimp only; omega),
        hsize]
      rfl
    · rw [if_neg (by omega)]
  obtain ⟨m, hcalls, hend⟩ : ∃ m, (∀ i < m, calls.results i = some 0) ∧
      (calls.results m = none ∨ dev.size = 0) := by
    rcases h with hnone | hempty | ⟨m, hcalls, hend⟩
    · exact absurd hnone hsize
    · exact ⟨0, fun i hi => by omega, .inr hempty⟩
    · exact ⟨m, hcalls, .inl hend⟩
  obtain ⟨fuel, final, hrun, hfinal⟩ := hopened.ends (Nat.pos_of_ne_zero hsize) hcalls hend
    (Nat.zero_le m)
  refine ⟨fuel, final.clearCount == part.size, final, ?_, fun w hw hbytes =>
    absurd (hfinal.writes w hw) hbytes, ?_⟩
  · rw [clearBootSwitchPartitionOn_eq hopen hseek, hrun]
    rfl
  · intro hres
    have hcount := hfinal.count
    rw [beq_iff_eq] at hres
    omega

/-- The function does what it should exactly if the device or the place can not be opened or the
writes come to an end inside of the partition. Behind a failed seek that is not noticed it must not
write anything. -/
theorem clearBootSwitchPartition_clears_iff (dev : DeviceFile) (part : BootSwitchPartition)
    (calls : DeviceCalls) :
    ClearsPartition dev part calls ↔
      (calls.opens = true → ∀ pos, seekPosition dev part.start = some pos →
        WritesWell dev.toByteFile part calls.results pos) := by
  constructor
  · intro h hopen pos hseek
    exact h.writesWell hopen hseek
  · intro h
    cases hopen : calls.opens with
    | false =>
      refine ⟨0, false, ⟨0, bufferSize, 0, dev.bytes, []⟩, ?_,
        fun w hw => by simp at hw, fun hres => by simp at hres⟩
      unfold clearBootSwitchPartitionOn
      rw [if_pos hopen]
    | true =>
      cases hseek : seekPosition dev part.start with
      | none =>
        refine ⟨0, false, ⟨0, bufferSize, 0, dev.bytes, []⟩, ?_,
          fun w hw => by simp at hw, fun hres => by simp at hres⟩
        unfold clearBootSwitchPartitionOn
        rw [if_neg (by simp [hopen]), hseek]
      | some pos =>
        have hwell := h hopen pos hseek
        unfold WritesWell at hwell
        rcases seekPosition_cases hseek with rfl | ⟨hbeyond, hlast, rfl⟩
        · rw [if_pos rfl] at hwell
          exact hwell.clears hopen hseek
        · rw [if_neg (by omega)] at hwell
          exact hwell.clears hopen hseek

/-- A partition of 4 GiB in front of other data is cleared together with them, writes that transfer
nothing go on forever, and for the last position it is the beginning of the device that is
cleared. -/
theorem largePartition_not_cleared :
    ¬ClearsPartition ⟨⟨2 ^ 33, fun _ => 1⟩, by decide⟩ ⟨0, 2 ^ 32⟩ ⟨true, fun _ => some 512⟩ ∧
      ¬ClearsPartition ⟨⟨1024, fun _ => 1⟩, by decide⟩ ⟨0, 512⟩ ⟨true, fun _ => some 0⟩ ∧
      ¬ClearsPartition ⟨⟨1024, fun _ => 1⟩, by decide⟩ ⟨2 ^ 64 - 1, 512⟩ ⟨true, fun _ =>
        some 512⟩ := by
  have hnone : ∀ n, offered (fun _ => some 0) n = 0 := by
    intro n
    induction n with
    | zero => rfl
    | succ n ih =>
      rw [offered, ih]
      rfl
  refine ⟨?_, ?_, ?_⟩
  · intro h
    obtain ⟨n, -, -, hend | hend⟩ := h.writesWell rfl rfl
    · simp at hend
    · exact absurd hend.2 (by decide)
  · intro h
    obtain ⟨n, -, -, hend | hend⟩ := h.writesWell rfl rfl
    · simp at hend
    · rw [hnone n] at hend
      exact absurd hend.1 (by decide)
  · intro h
    obtain hempty | hempty | ⟨n, -, hend⟩ := h.writesWell rfl rfl
    · simp at hempty
    · simp at hempty
    · simp at hend

end Clearing

end RaucUpdate
