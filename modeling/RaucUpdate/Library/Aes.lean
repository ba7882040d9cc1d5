import Mathlib.Data.List.Basic
import RaucUpdate.Library.Ciphers

/-!
# AES with 256-bit keys

The block cipher of the Advanced Encryption Standard on a state of four columns. Each step of a
round has an inverse: the substitution by its table, the rotation of the rows by the rotation back,
and the product of a column with a polynomial by the product with the inverse polynomial.
-/

namespace RaucUpdate.Library.Aes

structure AesColumn where
  a : UInt8
  b : UInt8
  c : UInt8
  d : UInt8

structure AesState where
  c0 : AesColumn
  c1 : AesColumn
  c2 : AesColumn
  c3 : AesColumn

/-- One operation on each column. -/
def AesState.map (f : AesColumn → AesColumn) (s : AesState) : AesState :=
  ⟨f s.c0, f s.c1, f s.c2, f s.c3⟩

lemma AesState.map_map {f g : AesColumn → AesColumn} (h : ∀ column, g (f column) = column)
    (s : AesState) :
    (s.map f).map g = s := by
  simp only [map, h]

section Substitution

/-- Row and column are the two halves of a byte. -/
def sboxTable : List (List UInt8) :=
  [[0x63, 0x7c, 0x77, 0x7b, 0xf2, 0x6b, 0x6f, 0xc5, 0x30, 0x01, 0x67, 0x2b, 0xfe, 0xd7, 0xab, 0x76],
    [0xca, 0x82, 0xc9, 0x7d, 0xfa, 0x59, 0x47, 0xf0, 0xad, 0xd4, 0xa2, 0xaf, 0x9c, 0xa4,
      0x72, 0xc0],
    [0xb7, 0xfd, 0x93, 0x26, 0x36, 0x3f, 0xf7, 0xcc, 0x34, 0xa5, 0xe5, 0xf1, 0x71, 0xd8,
      0x31, 0x15],
    [0x04, 0xc7, 0x23, 0xc3, 0x18, 0x96, 0x05, 0x9a, 0x07, 0x12, 0x80, 0xe2, 0xeb, 0x27,
      0xb2, 0x75],
    [0x09, 0x83, 0x2c, 0x1a, 0x1b, 0x6e, 0x5a, 0xa0, 0x52, 0x3b, 0xd6, 0xb3, 0x29, 0xe3,
      0x2f, 0x84],
    [0x53, 0xd1, 0x00, 0xed, 0x20, 0xfc, 0xb1, 0x5b, 0x6a, 0xcb, 0xbe, 0x39, 0x4a, 0x4c,
      0x58, 0xcf],
    [0xd0, 0xef, 0xaa, 0xfb, 0x43, 0x4d, 0x33, 0x85, 0x45, 0xf9, 0x02, 0x7f, 0x50, 0x3c,
      0x9f, 0xa8],
    [0x51, 0xa3, 0x40, 0x8f, 0x92, 0x9d, 0x38, 0xf5, 0xbc, 0xb6, 0xda, 0x21, 0x10, 0xff,
      0xf3, 0xd2],
    [0xcd, 0x0c, 0x13, 0xec, 0x5f, 0x97, 0x44, 0x17, 0xc4, 0xa7, 0x7e, 0x3d, 0x64, 0x5d,
      0x19, 0x73],
    [0x60, 0x81, 0x4f, 0xdc, 0x22, 0x2a, 0x90, 0x88, 0x46, 0xee, 0xb8, 0x14, 0xde, 0x5e,
      0x0b, 0xdb],
    [0xe0, 0x32, 0x3a, 0x0a, 0x49, 0x06, 0x24, 0x5c, 0xc2, 0xd3, 0xac, 0x62, 0x91, 0x95,
      0xe4, 0x79],
    [0xe7, 0xc8, 0x37, 0x6d, 0x8d, 0xd5, 0x4e, 0xa9, 0x6c, 0x56, 0xf4, 0xea, 0x65, 0x7a,
      0xae, 0x08],
    [0xba, 0x78, 0x25, 0x2e, 0x1c, 0xa6, 0xb4, 0xc6, 0xe8, 0xdd, 0x74, 0x1f, 0x4b, 0xbd,
      0x8b, 0x8a],
    [0x70, 0x3e, 0xb5, 0x66, 0x48, 0x03, 0xf6, 0x0e, 0x61, 0x35, 0x57, 0xb9, 0x86, 0xc1,
      0x1d, 0x9e],
    [0xe1, 0xf8, 0x98, 0x11, 0x69, 0xd9, 0x8e, 0x94, 0x9b, 0x1e, 0x87, 0xe9, 0xce, 0x55,
      0x28, 0xdf],
    [0x8c, 0xa1, 0x89, 0x0d, 0xbf, 0xe6, 0x42, 0x68, 0x41, 0x99, 0x2d, 0x0f, 0xb0, 0x54,
      0xbb, 0x16]]

def invSboxTable : List (List UInt8) :=
  [[0x52, 0x09, 0x6a, 0xd5, 0x30, 0x36, 0xa5, 0x38, 0xbf, 0x40, 0xa3, 0x9e, 0x81, 0xf3, 0xd7, 0xfb],
    [0x7c, 0xe3, 0x39, 0x82, 0x9b, 0x2f, 0xff, 0x87, 0x34, 0x8e, 0x43, 0x44, 0xc4, 0xde,
      0xe9, 0xcb],
    [0x54, 0x7b, 0x94, 0x32, 0xa6, 0xc2, 0x23, 0x3d, 0xee, 0x4c, 0x95, 0x0b, 0x42, 0xfa,
      0xc3, 0x4e],
    [0x08, 0x2e, 0xa1, 0x66, 0x28, 0xd9, 0x24, 0xb2, 0x76, 0x5b, 0xa2, 0x49, 0x6d, 0x8b,
      0xd1, 0x25],
    [0x72, 0xf8, 0xf6, 0x64, 0x86, 0x68, 0x98, 0x16, 0xd4, 0xa4, 0x5c, 0xcc, 0x5d, 0x65,
      0xb6, 0x92],
    [0x6c, 0x70, 0x48, 0x50, 0xfd, 0xed, 0xb9, 0xda, 0x5e, 0x15, 0x46, 0x57, 0xa7, 0x8d,
      0x9d, 0x84],
    [0x90, 0xd8, 0xab, 0x00, 0x8c, 0xbc, 0xd3, 0x0a, 0xf7, 0xe4, 0x58, 0x05, 0xb8, 0xb3,
      0x45, 0x06],
    [0xd0, 0x2c, 0x1e, 0x8f, 0xca, 0x3f, 0x0f, 0x02, 0xc1, 0xaf, 0xbd, 0x03, 0x01, 0x13,
      0x8a, 0x6b],
    [0x3a, 0x91, 0x11, 0x41, 0x4f, 0x67, 0xdc, 0xea, 0x97, 0xf2, 0xcf, 0xce, 0xf0, 0xb4,
      0xe6, 0x73],
    [0x96, 0xac, 0x74, 0x22, 0xe7, 0xad, 0x35, 0x85, 0xe2, 0xf9, 0x37, 0xe8, 0x1c, 0x75,
      0xdf, 0x6e],
    [0x47, 0xf1, 0x1a, 0x71, 0x1d, 0x29, 0xc5, 0x89, 0x6f, 0xb7, 0x62, 0x0e, 0xaa, 0x18,
      0xbe, 0x1b],
    [0xfc, 0x56, 0x3e, 0x4b, 0xc6, 0xd2, 0x79, 0x20, 0x9a, 0xdb, 0xc0, 0xfe, 0x78, 0xcd,
      0x5a, 0xf4],
    [0x1f, 0xdd, 0xa8, 0x33, 0x88, 0x07, 0xc7, 0x31, 0xb1, 0x12, 0x10, 0x59, 0x27, 0x80,
      0xec, 0x5f],
    [0x60, 0x51, 0x7f, 0xa9, 0x19, 0xb5, 0x4a, 0x0d, 0x2d, 0xe5, 0x7a, 0x9f, 0x93, 0xc9,
      0x9c, 0xef],
    [0xa0, 0xe0, 0x3b, 0x4d, 0xae, 0x2a, 0xf5, 0xb0, 0xc8, 0xeb, 0xbb, 0x3c, 0x83, 0x53,
      0x99, 0x61],
    [0x17, 0x2b, 0x04, 0x7e, 0xba, 0x77, 0xd6, 0x26, 0xe1, 0x69, 0x14, 0x63, 0x55, 0x21,
      0x0c, 0x7d]]

def sbox (b : UInt8) : UInt8 := (sboxTable.getD (b.toNat / 16) []).getD (b.toNat % 16) 0

def invSbox (b : UInt8) : UInt8 := (invSboxTable.getD (b.toNat / 16) []).getD (b.toNat % 16) 0

/-- A fact about a byte is a fact about 256 numbers. -/
lemma forall_byte {p : UInt8 → Prop} (h : ∀ n < 256, p (UInt8.ofNat n)) (b : UInt8) : p b := by
  have hbyte := h b.toNat b.toNat_lt
  rwa [UInt8.ofNat_toNat] at hbyte

lemma invSbox_sbox (b : UInt8) : invSbox (sbox b) = b :=
  forall_byte (p := fun b => invSbox (sbox b) = b) (by decide +kernel) b

lemma sbox_invSbox (b : UInt8) : sbox (invSbox b) = b :=
  forall_byte (p := fun b => sbox (invSbox b) = b) (by decide +kernel) b

end Substitution

section Columns

/-- The product with the polynomial `x`. -/
def xtime (b : UInt8) : UInt8 := (b <<< 1) ^^^ (if b &&& 0x80 = 0 then 0 else 0x1b)

/-- The products with 2, 3, 9, 11, 13 and 14. -/
def mul3 (b : UInt8) : UInt8 := xtime b ^^^ b

def mul9 (b : UInt8) : UInt8 := xtime (xtime (xtime b)) ^^^ b

def mul11 (b : UInt8) : UInt8 := xtime (xtime (xtime b)) ^^^ xtime b ^^^ b

def mul13 (b : UInt8) : UInt8 := xtime (xtime (xtime b)) ^^^ xtime (xtime b) ^^^ b

def mul14 (b : UInt8) : UInt8 := xtime (xtime (xtime b)) ^^^ xtime (xtime b) ^^^ xtime b

lemma xor_xor_cancel (a b : UInt8) : a ^^^ (a ^^^ b) = b := by
  rw [← UInt8.xor_assoc, UInt8.xor_self, UInt8.zero_xor]

lemma xor_left_comm (a b c : UInt8) : a ^^^ (b ^^^ c) = b ^^^ (a ^^^ c) := by
  rw [← UInt8.xor_assoc, UInt8.xor_comm a b, UInt8.xor_assoc]

lemma xtime_xor (a b : UInt8) : xtime (a ^^^ b) = xtime a ^^^ xtime b := by
  have htop : ∀ c : UInt8, c &&& 0x80 = 0 ∨ c &&& 0x80 = 0x80 :=
    forall_byte (p := fun c => c &&& 0x80 = 0 ∨ c &&& 0x80 = 0x80) (by decide +kernel)
  have hand : (a ^^^ b) &&& 0x80 = (a &&& 0x80) ^^^ (b &&& 0x80) := by
    apply UInt8.toBitVec_inj.mp
    apply BitVec.eq_of_getLsbD_eq
    intro i _
    simp only [UInt8.toBitVec_and, UInt8.toBitVec_xor, BitVec.getLsbD_and, BitVec.getLsbD_xor,
      Bool.and_xor_distrib_right]
  unfold xtime
  rw [UInt8.shiftLeft_xor, hand]
  rcases htop a with ha | ha
  · rcases htop b with hb | hb
    · simp [ha, hb]
    · simp [ha, hb, UInt8.xor_assoc]
  · rcases htop b with hb | hb
    · rw [ha, hb, if_neg (by decide), if_neg (by decide), if_pos rfl, UInt8.xor_zero,
        UInt8.xor_assoc, UInt8.xor_assoc,
        UInt8.xor_comm 0x1b]
    · rw [ha, hb, if_pos (by decide), if_neg (by decide), UInt8.xor_zero, UInt8.xor_assoc,
        xor_left_comm 0x1b,
        UInt8.xor_self, UInt8.xor_zero]

lemma mul3_xor (a b : UInt8) : mul3 (a ^^^ b) = mul3 a ^^^ mul3 b := by
  simp only [mul3, xtime_xor]
  ac_rfl

lemma mul9_xor (a b : UInt8) : mul9 (a ^^^ b) = mul9 a ^^^ mul9 b := by
  simp only [mul9, xtime_xor]
  ac_rfl

lemma mul11_xor (a b : UInt8) : mul11 (a ^^^ b) = mul11 a ^^^ mul11 b := by
  simp only [mul11, xtime_xor]
  ac_rfl

lemma mul13_xor (a b : UInt8) : mul13 (a ^^^ b) = mul13 a ^^^ mul13 b := by
  simp only [mul13, xtime_xor]
  ac_rfl

lemma mul14_xor (a b : UInt8) : mul14 (a ^^^ b) = mul14 a ^^^ mul14 b := by
  simp only [mul14, xtime_xor]
  ac_rfl

/-- The entry of a product of a column with a polynomial, the column being read from this entry
on. -/
def mixByte (a b c d : UInt8) : UInt8 := xtime a ^^^ mul3 b ^^^ c ^^^ d

def invMixByte (a b c d : UInt8) : UInt8 := mul14 a ^^^ mul11 b ^^^ mul13 c ^^^ mul9 d

/-- The product of the two polynomials is 1: what a byte adds to each entry. -/
lemma products (b : UInt8) :
    mul14 (xtime b) ^^^ mul11 b ^^^ mul13 b ^^^ mul9 (mul3 b) = b ∧
      mul14 (mul3 b) ^^^ mul11 (xtime b) ^^^ mul13 b ^^^ mul9 b = 0 ∧
      mul14 b ^^^ mul11 (mul3 b) ^^^ mul13 (xtime b) ^^^ mul9 b = 0 ∧
      mul14 b ^^^ mul11 b ^^^ mul13 (mul3 b) ^^^ mul9 (xtime b) = 0 :=
  forall_byte (p := fun b => mul14 (xtime b) ^^^ mul11 b ^^^ mul13 b ^^^ mul9 (mul3 b) = b ∧
      mul14 (mul3 b) ^^^ mul11 (xtime b) ^^^ mul13 b ^^^ mul9 b = 0 ∧
      mul14 b ^^^ mul11 (mul3 b) ^^^ mul13 (xtime b) ^^^ mul9 b = 0 ∧
      mul14 b ^^^ mul11 b ^^^ mul13 (mul3 b) ^^^ mul9 (xtime b) = 0) (by decide +kernel) b

lemma products_reversed (b : UInt8) :
    xtime (mul14 b) ^^^ mul3 (mul9 b) ^^^ mul13 b ^^^ mul11 b = b ∧
      xtime (mul11 b) ^^^ mul3 (mul14 b) ^^^ mul9 b ^^^ mul13 b = 0 ∧
      xtime (mul13 b) ^^^ mul3 (mul11 b) ^^^ mul14 b ^^^ mul9 b = 0 ∧
      xtime (mul9 b) ^^^ mul3 (mul13 b) ^^^ mul11 b ^^^ mul14 b = 0 :=
  forall_byte (p := fun b => xtime (mul14 b) ^^^ mul3 (mul9 b) ^^^ mul13 b ^^^ mul11 b = b ∧
      xtime (mul11 b) ^^^ mul3 (mul14 b) ^^^ mul9 b ^^^ mul13 b = 0 ∧
      xtime (mul13 b) ^^^ mul3 (mul11 b) ^^^ mul14 b ^^^ mul9 b = 0 ∧
      xtime (mul9 b) ^^^ mul3 (mul13 b) ^^^ mul11 b ^^^ mul14 b = 0) (by decide +kernel) b

lemma invMixByte_mixByte (a b c d : UInt8) :
    invMixByte (mixByte a b c d) (mixByte b c d a) (mixByte c d a b) (mixByte d a b c) = a := by
  have hsum : invMixByte (mixByte a b c d) (mixByte b c d a) (mixByte c d a b) (mixByte d a b c) =
      (mul14 (xtime a) ^^^ mul11 a ^^^ mul13 a ^^^ mul9 (mul3 a)) ^^^
        (mul14 (mul3 b) ^^^ mul11 (xtime b) ^^^ mul13 b ^^^ mul9 b) ^^^
        (mul14 c ^^^ mul11 (mul3 c) ^^^ mul13 (xtime c) ^^^ mul9 c) ^^^
        (mul14 d ^^^ mul11 d ^^^ mul13 (mul3 d) ^^^ mul9 (xtime d)) := by
    simp only [invMixByte, mixByte, mul9_xor, mul11_xor, mul13_xor, mul14_xor]
    ac_rfl
  rw [hsum, (products a).1, (products b).2.1, (products c).2.2.1, (products d).2.2.2,
    UInt8.xor_zero, UInt8.xor_zero,
    UInt8.xor_zero]

lemma mixByte_invMixByte (a b c d : UInt8) :
    mixByte (invMixByte a b c d) (invMixByte b c d a) (invMixByte c d a b) (invMixByte d a b c) =
      a := by
  have hsum : mixByte (invMixByte a b c d) (invMixByte b c d a) (invMixByte c d a b)
      (invMixByte d a b c) =
      (xtime (mul14 a) ^^^ mul3 (mul9 a) ^^^ mul13 a ^^^ mul11 a) ^^^
        (xtime (mul11 b) ^^^ mul3 (mul14 b) ^^^ mul9 b ^^^ mul13 b) ^^^
        (xtime (mul13 c) ^^^ mul3 (mul11 c) ^^^ mul14 c ^^^ mul9 c) ^^^
        (xtime (mul9 d) ^^^ mul3 (mul13 d) ^^^ mul11 d ^^^ mul14 d) := by
    simp only [invMixByte, mixByte, mul3_xor, xtime_xor]
    ac_rfl
  rw [hsum, (products_reversed a).1, (products_reversed b).2.1, (products_reversed c).2.2.1,
    (products_reversed d).2.2.2, UInt8.xor_zero, UInt8.xor_zero, UInt8.xor_zero]

end Columns

section Rounds

def AesColumn.map (f : UInt8 → UInt8) (column : AesColumn) : AesColumn :=
  ⟨f column.a, f column.b, f column.c, f column.d⟩

lemma AesColumn.map_map {f g : UInt8 → UInt8} (h : ∀ b, g (f b) = b) (column : AesColumn) :
    (column.map f).map g = column := by
  simp only [map, h]

def subBytes (s : AesState) : AesState := s.map (AesColumn.map sbox)

def invSubBytes (s : AesState) : AesState := s.map (AesColumn.map invSbox)

/-- The row of the bytes `b` moves by one column, and so on. -/
def shiftRows : AesState → AesState
  | ⟨c0, c1, c2, c3⟩ =>
    ⟨⟨c0.a, c1.b, c2.c, c3.d⟩, ⟨c1.a, c2.b, c3.c, c0.d⟩, ⟨c2.a, c3.b, c0.c, c1.d⟩,
      ⟨c3.a, c0.b, c1.c, c2.d⟩⟩

def invShiftRows : AesState → AesState
  | ⟨c0, c1, c2, c3⟩ =>
    ⟨⟨c0.a, c3.b, c2.c, c1.d⟩, ⟨c1.a, c0.b, c3.c, c2.d⟩, ⟨c2.a, c1.b, c0.c, c3.d⟩,
      ⟨c3.a, c2.b, c1.c, c0.d⟩⟩

def mixColumn : AesColumn → AesColumn
  | ⟨a, b, c, d⟩ => ⟨mixByte a b c d, mixByte b c d a, mixByte c d a b, mixByte d a b c⟩

def invMixColumn : AesColumn → AesColumn
  | ⟨a, b, c, d⟩ => ⟨invMixByte a b c d, invMixByte b c d a, invMixByte c d a b, invMixByte d a b c⟩

def AesColumn.xor (x y : AesColumn) : AesColumn :=
  ⟨x.a ^^^ y.a, x.b ^^^ y.b, x.c ^^^ y.c, x.d ^^^ y.d⟩

def addRoundKey (key s : AesState) : AesState :=
  ⟨key.c0.xor s.c0, key.c1.xor s.c1, key.c2.xor s.c2, key.c3.xor s.c3⟩

@[simp] lemma invSubBytes_subBytes (s : AesState) : invSubBytes (subBytes s) = s :=
  AesState.map_map (AesColumn.map_map invSbox_sbox) s

@[simp] lemma subBytes_invSubBytes (s : AesState) : subBytes (invSubBytes s) = s :=
  AesState.map_map (AesColumn.map_map sbox_invSbox) s

@[simp] lemma invShiftRows_shiftRows (s : AesState) : invShiftRows (shiftRows s) = s := rfl

@[simp] lemma shiftRows_invShiftRows (s : AesState) : shiftRows (invShiftRows s) = s := rfl

lemma invMixColumn_mixColumn (column : AesColumn) : invMixColumn (mixColumn column) = column := by
  obtain ⟨a, b, c, d⟩ := column
  simp only [mixColumn, invMixColumn, invMixByte_mixByte]

lemma mixColumn_invMixColumn (column : AesColumn) : mixColumn (invMixColumn column) = column := by
  obtain ⟨a, b, c, d⟩ := column
  simp only [mixColumn, invMixColumn, mixByte_invMixByte]

@[simp] lemma invMixColumns_mixColumns (s : AesState) : (s.map mixColumn).map invMixColumn = s :=
  AesState.map_map invMixColumn_mixColumn s

@[simp] lemma mixColumns_invMixColumns (s : AesState) : (s.map invMixColumn).map mixColumn = s :=
  AesState.map_map mixColumn_invMixColumn s

@[simp] lemma addRoundKey_addRoundKey (key s : AesState) :
    addRoundKey key (addRoundKey key s) = s := by
  simp only [addRoundKey, AesColumn.xor, xor_xor_cancel]

structure KeySchedule where
  first : AesState
  rounds : List AesState
  last : AesState

def round (s key : AesState) : AesState := addRoundKey key ((shiftRows (subBytes s)).map mixColumn)

def invRound (key s : AesState) : AesState :=
  invSubBytes (invShiftRows ((addRoundKey key s).map invMixColumn))

def cipher (keys : KeySchedule) (s : AesState) : AesState :=
  addRoundKey keys.last (shiftRows (subBytes (keys.rounds.foldl round (addRoundKey keys.first s))))

def invCipher (keys : KeySchedule) (s : AesState) : AesState :=
  addRoundKey keys.first (keys.rounds.foldr invRound
    (invSubBytes (invShiftRows (addRoundKey keys.last s))))

/-- The rounds are undone from the last one to the first one. -/
lemma foldr_invRound_foldl_round (keys : List AesState) (s : AesState) :
    keys.foldr invRound (keys.foldl round s) = s := by
  induction keys generalizing s with
  | nil => rfl
  | cons key rest ih =>
    rw [List.foldl_cons, List.foldr_cons, ih]
    simp [round, invRound]

lemma foldl_round_foldr_invRound (keys : List AesState) (s : AesState) :
    keys.foldl round (keys.foldr invRound s) = s := by
  induction keys generalizing s with
  | nil => rfl
  | cons key rest ih =>
    have hround : round (invRound key (rest.foldr invRound s)) key = rest.foldr invRound s := by
      simp [round, invRound]
    rw [List.foldl_cons, List.foldr_cons, hround, ih]

@[simp] lemma invCipher_cipher (keys : KeySchedule) (s : AesState) :
    invCipher keys (cipher keys s) = s := by
  simp [invCipher, cipher, foldr_invRound_foldl_round]

@[simp] lemma cipher_invCipher (keys : KeySchedule) (s : AesState) :
    cipher keys (invCipher keys s) = s := by
  simp [invCipher, cipher, foldl_round_foldr_invRound]

end Rounds

section Blocks

def toColumn (bytes : List UInt8) : AesColumn :=
  ⟨bytes.getD 0 0, bytes.getD 1 0, bytes.getD 2 0, bytes.getD 3 0⟩

def ofColumn (column : AesColumn) : List UInt8 := [column.a, column.b, column.c, column.d]

/-- The bytes of a block fill the state column by column. -/
def toState (block : List UInt8) : AesState :=
  ⟨toColumn (block.take 4), toColumn ((block.drop 4).take 4), toColumn ((block.drop 8).take 4),
    toColumn (block.drop 12)⟩

def ofState (s : AesState) : List UInt8 :=
  ofColumn s.c0 ++ ofColumn s.c1 ++ ofColumn s.c2 ++ ofColumn s.c3

lemma length_ofState (s : AesState) : (ofState s).length = 16 := rfl

@[simp] lemma toState_ofState (s : AesState) : toState (ofState s) = s := rfl

lemma ofColumn_toColumn {bytes : List UInt8} (h : bytes.length = 4) :
    ofColumn (toColumn bytes) = bytes := by
  obtain ⟨a, b, c, d, rfl⟩ := List.length_eq_four.mp h
  rfl

lemma ofState_toState {block : List UInt8} (h : block.length = 16) :
    ofState (toState block) = block := by
  have hlast : (block.drop 12).length = 4 := by rw [List.length_drop, h]
  have htake : ∀ i, i + 4 ≤ 16 → ((block.drop i).take 4).length = 4 := by
    intro i hi
    rw [List.length_take, List.length_drop, h]
    omega
  have hfirst := htake 0 (by omega)
  rw [List.drop_zero] at hfirst
  unfold ofState toState
  rw [ofColumn_toColumn hfirst, ofColumn_toColumn (htake 4 (by omega)),
    ofColumn_toColumn (htake 8 (by omega)),
    ofColumn_toColumn hlast]
  have hsplit : ∀ i, block.drop i = (block.drop i).take 4 ++ block.drop (i + 4) := by
    intro i
    rw [← List.drop_drop, List.take_append_drop]
  rw [List.append_assoc, List.append_assoc, ← hsplit 8, ← hsplit 4, List.take_append_drop]

/-- The next word of the key schedule follows from the words so far. -/
def nextWord (words : List (List UInt8)) : List UInt8 :=
  let last := words.getD (words.length - 1) []
  let mixed :=
    if words.length % 8 = 0 then
      List.zipWith (· ^^^ ·) ((last.rotateLeft 1).map sbox)
        [Nat.repeat xtime (words.length / 8 - 1) 1, 0, 0, 0]
    else if words.length % 8 = 4 then last.map sbox
    else last
  List.zipWith (· ^^^ ·) (words.getD (words.length - 8) []) mixed

def keyWords (key : Vector UInt8 32) : List (List UInt8) :=
  Nat.repeat (fun words => words ++ [nextWord words]) 52
    ((List.range 8).map (fun i => (key.toList.drop (4 * i)).take 4))

def roundKey (words : List (List UInt8)) (i : Nat) : AesState :=
  toState ((words.drop (4 * i)).take 4).flatten

def keySchedule (key : Vector UInt8 32) : KeySchedule where
  first := roundKey (keyWords key) 0
  rounds := (List.range 13).map (fun i => roundKey (keyWords key) (i + 1))
  last := roundKey (keyWords key) 14

def aes256 : BlockCipher (Vector UInt8 32) UInt8 16 where
  encrypt key block := ofState (cipher (keySchedule key) (toState block))
  decrypt key block := ofState (invCipher (keySchedule key) (toState block))
  length_encrypt _ _ _ := length_ofState _
  length_decrypt _ _ _ := length_ofState _
  decrypt_encrypt key block h := by rw [toState_ofState, invCipher_cipher, ofState_toState h]
  encrypt_decrypt key block h := by rw [toState_ofState, cipher_invCipher, ofState_toState h]

/-- The example of the standard for this key length. -/
example :
    aes256.encrypt (Vector.ofFn (fun i => UInt8.ofNat i.val))
      [0x00, 0x11, 0x22, 0x33, 0x44, 0x55, 0x66, 0x77, 0x88, 0x99, 0xaa, 0xbb, 0xcc, 0xdd,
        0xee, 0xff] =
      [0x8e, 0xa2, 0xb7, 0xca, 0x51, 0x67, 0x45, 0xbf, 0xea, 0xfc, 0x49, 0x90, 0x4b, 0x49,
        0x60, 0x89] := by
  decide +kernel

def xorMixing : Mixing UInt8 := ⟨(· ^^^ ·), xor_xor_cancel⟩

/-- AES-256 in CBC mode without padding. -/
def aes256Cbc : IvCipher (Vector UInt8 32) UInt8 16 := aes256.chained xorMixing

end Blocks

end RaucUpdate.Library.Aes
