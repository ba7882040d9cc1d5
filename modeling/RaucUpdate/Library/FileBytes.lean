import Mathlib.Algebra.Group.Nat.Defs
import Mathlib.Data.List.Basic
import Mathlib.Data.List.Induction

/-!
# The bytes of a file

Reading at a position gives what there is up to the end of the file. Writing at a position changes
the bytes there, and a gap behind the end of the file is filled.
-/

namespace RaucUpdate.Library

variable {β : Type}

def readAt (file : List β) (pos len : Nat) : List β := (file.drop pos).take len

/-- Writing nothing does not change the file. -/
def overwrite (fill : β) (file : List β) (pos : Nat) : List β → List β
  | [] => file
  | b :: rest =>
    file.take pos ++ List.replicate (pos - file.length) fill ++ (b :: rest) ++
      file.drop (pos + (b :: rest).length)

section Reading

variable {file : List β} {pos len : Nat}

lemma length_readAt (file : List β) (pos len : Nat) :
    (readAt file pos len).length = min len (file.length - pos) := by
  unfold readAt
  rw [List.length_take, List.length_drop]

lemma length_readAt_of_le (h : pos + len ≤ file.length) : (readAt file pos len).length = len := by
  rw [length_readAt]
  omega

lemma getElem?_readAt (file : List β) (pos len k : Nat) :
    (readAt file pos len)[k]? = if k < len then file[pos + k]? else none := by
  unfold readAt
  rw [List.getElem?_take, List.getElem?_drop]

lemma readAt_add (file : List β) (pos first second : Nat) :
    readAt file pos (first + second) = readAt file pos first ++ readAt file (pos + first)
      second := by
  unfold readAt
  rw [List.take_add, List.drop_drop]

lemma take_readAt (file : List β) (pos first second : Nat) :
    (readAt file pos (first + second)).take first = readAt file pos first := by
  unfold readAt
  rw [List.take_take, Nat.min_eq_left (by omega)]

lemma drop_readAt (file : List β) (pos first second : Nat) :
    (readAt file pos (first + second)).drop first = readAt file (pos + first) second := by
  unfold readAt
  rw [List.drop_take, List.drop_drop, Nat.add_sub_cancel_left]

lemma readAt_zero (file : List β) (pos : Nat) : readAt file pos 0 = [] := List.take_zero

lemma readAt_readAt {at' inner : Nat} (h : at' + inner ≤ len) :
    readAt (readAt file pos len) at' inner = readAt file (pos + at') inner := by
  apply List.ext_getElem?
  intro k
  rw [getElem?_readAt, getElem?_readAt, getElem?_readAt]
  split_ifs with hk hin
  · rw [Nat.add_assoc]
  · omega
  · rfl

lemma readAt_append_right (before bytes after : List β) :
    readAt (before ++ bytes ++ after) before.length bytes.length = bytes := by
  unfold readAt
  rw [List.append_assoc, List.drop_left, List.take_left]

/-- Two reads agree where the bytes of the files do. -/
lemma readAt_congr {other : List β} (h : ∀ k, k < len → file[pos + k]? = other[pos + k]?) :
    readAt file pos len = readAt other pos len := by
  apply List.ext_getElem?
  intro k
  rw [getElem?_readAt, getElem?_readAt]
  split_ifs with hk
  · exact h k hk
  · rfl

end Reading

section Writing

variable {fill : β} {file bytes : List β} {pos : Nat}

lemma overwrite_nil (fill : β) (file : List β) (pos : Nat) : overwrite fill file pos [] = file :=
  rfl

lemma overwrite_of_ne_nil (h : bytes ≠ []) : overwrite fill file pos bytes =
    file.take pos ++ List.replicate (pos - file.length) fill ++ bytes ++
      file.drop (pos + bytes.length) := by
  cases bytes with
  | nil => exact absurd rfl h
  | cons b rest => rfl

lemma length_overwrite (h : bytes ≠ []) :
    (overwrite fill file pos bytes).length = max file.length (pos + bytes.length) := by
  rw [overwrite_of_ne_nil h]
  simp only [List.length_append, List.length_take, List.length_replicate, List.length_drop]
  omega

lemma overwrite_at_end (fill : β) (file bytes : List β) : overwrite fill file file.length bytes =
    file ++ bytes := by
  by_cases h : bytes = []
  · rw [h, overwrite_nil, List.append_nil]
  · rw [overwrite_of_ne_nil h, List.take_length, Nat.sub_self, List.drop_eq_nil_of_le (by omega),
      List.append_nil]
    simp

/-- In front of what is written there is the old content and then the filling. -/
lemma getElem?_overwrite_before {k : Nat} (hne : bytes ≠ []) (h : k < pos) :
    (overwrite fill file pos bytes)[k]? = if k < file.length then file[k]? else some fill := by
  rw [overwrite_of_ne_nil hne]
  have hlen : (file.take pos ++ List.replicate (pos - file.length) fill).length = pos := by
    simp only [List.length_append, List.length_take, List.length_replicate]
    omega
  rw [List.append_assoc, List.getElem?_append_left (by omega)]
  split_ifs with hk
  · rw [List.getElem?_append_left (by rw [List.length_take]; omega), List.getElem?_take, if_pos h]
  · rw [List.getElem?_append_right (by rw [List.length_take]; omega), List.length_take]
    apply List.getElem?_replicate_of_lt
    omega

lemma getElem?_overwrite_inside {k : Nat} (h : pos ≤ k) (hk : k < pos + bytes.length) :
    (overwrite fill file pos bytes)[k]? = bytes[k - pos]? := by
  have hne : bytes ≠ [] := List.ne_nil_of_length_pos (by omega)
  rw [overwrite_of_ne_nil hne]
  have hlen : (file.take pos ++ List.replicate (pos - file.length) fill).length = pos := by
    simp only [List.length_append, List.length_take, List.length_replicate]
    omega
  rw [List.append_assoc, List.getElem?_append_right (by omega), hlen,
    List.getElem?_append_left (by omega)]

lemma getElem?_overwrite_behind {k : Nat} (h : pos + bytes.length ≤ k) :
    (overwrite fill file pos bytes)[k]? = file[k]? := by
  by_cases hne : bytes = []
  · rw [hne, overwrite_nil]
  · rw [overwrite_of_ne_nil hne]
    have hlen : (file.take pos ++ List.replicate (pos - file.length) fill ++ bytes).length =
        pos + bytes.length := by
      simp only [List.length_append, List.length_take, List.length_replicate]
      omega
    rw [List.getElem?_append_right (by omega), hlen, List.getElem?_drop, show pos + bytes.length +
      (k - (pos + bytes.length)) = k by omega]

lemma readAt_overwrite (fill : β) (file : List β) (pos : Nat) (bytes : List β) :
    readAt (overwrite fill file pos bytes) pos bytes.length = bytes := by
  apply List.ext_getElem?
  intro k
  rw [getElem?_readAt]
  split_ifs with hk
  · rw [getElem?_overwrite_inside (by omega) (by omega), Nat.add_sub_cancel_left]
  · rw [List.getElem?_eq_none (by omega)]

/-- What stands in the file elsewhere survives a write. -/
lemma readAt_overwrite_apart {at' len : Nat} (hin : (readAt file at' len).length = len)
    (h : at' + len ≤ pos ∨ pos + bytes.length ≤ at') :
    readAt (overwrite fill file pos bytes) at' len = readAt file at' len := by
  rw [length_readAt] at hin
  by_cases hne : bytes = []
  · rw [hne, overwrite_nil]
  · apply readAt_congr
    intro k hk
    cases h with
    | inl hbefore => rw [getElem?_overwrite_before hne (by omega), if_pos (by omega)]
    | inr hbehind => exact getElem?_overwrite_behind (by omega)

/-- Two writes one after the other are one write. -/
lemma overwrite_append (fill : β) (file : List β) (pos : Nat) (first second : List β) :
    overwrite fill (overwrite fill file pos first) (pos + first.length) second =
      overwrite fill file pos (first ++ second) := by
  by_cases hfirst : first = []
  · rw [hfirst, overwrite_nil, List.nil_append, List.length_nil, Nat.add_zero]
  by_cases hsecond : second = []
  · rw [hsecond, overwrite_nil, List.append_nil]
  have hboth : first ++ second ≠ [] := by simp [hfirst]
  have hlen : (first ++ second).length = first.length + second.length := List.length_append
  apply List.ext_getElem?
  intro k
  by_cases hbefore : k < pos
  · rw [getElem?_overwrite_before hsecond (by omega), getElem?_overwrite_before hfirst hbefore,
      getElem?_overwrite_before hboth hbefore, length_overwrite hfirst, if_pos (by omega)]
  · by_cases hin : k < pos + first.length
    · rw [getElem?_overwrite_before hsecond hin, length_overwrite hfirst, if_pos (by omega),
        getElem?_overwrite_inside (by omega) hin, getElem?_overwrite_inside (by omega) (by omega),
        List.getElem?_append_left (by omega)]
    · by_cases hbehind : k < pos + first.length + second.length
      · rw [getElem?_overwrite_inside (by omega) hbehind,
          getElem?_overwrite_inside (by omega) (by omega),
          List.getElem?_append_right (by omega), Nat.sub_sub]
      · rw [getElem?_overwrite_behind (by omega), getElem?_overwrite_behind (by omega),
          getElem?_overwrite_behind (by omega)]

end Writing

section BigEndian

/-- A number in the given count of bytes, the most significant one first. -/
def bigEndian : Nat → Nat → List UInt8
  | 0, _ => []
  | count + 1, n => bigEndian count (n / 256) ++ [UInt8.ofNat n]

def ofBigEndian (bytes : List UInt8) : Nat := bytes.foldl (fun n b => n * 256 + b.toNat) 0

lemma length_bigEndian (count n : Nat) : (bigEndian count n).length = count := by
  induction count generalizing n with
  | zero => rfl
  | succ count ih => rw [bigEndian, List.length_append, ih, List.length_singleton]

lemma ofBigEndian_bigEndian {count n : Nat} (h : n < 256 ^ count) :
    ofBigEndian (bigEndian count n) = n := by
  induction count generalizing n with
  | zero =>
    rw [Nat.pow_zero] at h
    change 0 = n
    omega
  | succ count ih =>
    have hhead : ofBigEndian (bigEndian count (n / 256)) = n / 256 := by
      apply ih
      rw [Nat.div_lt_iff_lt_mul (by omega), ← Nat.pow_succ]
      exact h
    unfold ofBigEndian at hhead
    rw [ofBigEndian, bigEndian, List.foldl_append, hhead, List.foldl_cons, List.foldl_nil,
      UInt8.toNat_ofNat']
    omega

lemma ofBigEndian_append (bytes : List UInt8) (b : UInt8) :
    ofBigEndian (bytes ++ [b]) = ofBigEndian bytes * 256 + b.toNat := by
  unfold ofBigEndian
  rw [List.foldl_append, List.foldl_cons, List.foldl_nil]

/-- The bytes of a number are the only ones, of their count, that stand for it. -/
lemma bigEndian_ofBigEndian (bytes : List UInt8) :
    bigEndian bytes.length (ofBigEndian bytes) = bytes := by
  induction bytes using List.reverseRecOn with
  | nil => rfl
  | append_singleton bytes b ih =>
    have hlt := b.toNat_lt
    have hfront : (ofBigEndian bytes * 256 + b.toNat) / 256 = ofBigEndian bytes := by omega
    have hlast : UInt8.ofNat (ofBigEndian bytes * 256 + b.toNat) = b := by
      apply UInt8.toNat_inj.mp
      rw [UInt8.toNat_ofNat']
      omega
    rw [ofBigEndian_append, List.length_append, List.length_singleton, bigEndian, hfront, hlast, ih]

end BigEndian

section LittleEndian

/-- A number in the given count of bytes, the least significant one first. -/
def littleEndian : Nat → Nat → List UInt8
  | 0, _ => []
  | count + 1, n => UInt8.ofNat n :: littleEndian count (n / 256)

def ofLittleEndian (bytes : List UInt8) : Nat := bytes.foldr (fun b n => b.toNat + 256 * n) 0

lemma length_littleEndian (count n : Nat) : (littleEndian count n).length = count := by
  induction count generalizing n with
  | zero => rfl
  | succ count ih => rw [littleEndian, List.length_cons, ih]

lemma ofLittleEndian_littleEndian {count n : Nat} (h : n < 256 ^ count) :
    ofLittleEndian (littleEndian count n) = n := by
  induction count generalizing n with
  | zero =>
    rw [Nat.pow_zero] at h
    change 0 = n
    omega
  | succ count ih =>
    have hrest : ofLittleEndian (littleEndian count (n / 256)) = n / 256 := by
      apply ih
      rw [Nat.div_lt_iff_lt_mul (by omega), ← Nat.pow_succ]
      exact h
    unfold ofLittleEndian at hrest
    rw [ofLittleEndian, littleEndian, List.foldr_cons, hrest, UInt8.toNat_ofNat']
    omega

lemma ofLittleEndian_lt (bytes : List UInt8) : ofLittleEndian bytes < 256 ^ bytes.length := by
  induction bytes with
  | nil => decide
  | cons b bytes ih =>
    have hb := b.toNat_lt
    rw [List.length_cons, Nat.pow_succ]
    change b.toNat + 256 * ofLittleEndian bytes < _
    omega

end LittleEndian

end RaucUpdate.Library
