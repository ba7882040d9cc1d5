import Mathlib.Data.List.Basic
import RaucUpdate.Library.FileBytes

/-!
# Ciphers

A block cipher is a bijection of blocks for each key. Chaining makes from it a cipher for data of
many blocks, in which every block is mixed with the ciphertext of the block in front of it. Data in
sectors is changed sector by sector, and what is done to a sector may depend on its number.
-/

namespace RaucUpdate.Library

variable {Key β : Type} {m : Nat}

structure BlockCipher (Key β : Type) (m : Nat) where
  encrypt : Key → List β → List β
  decrypt : Key → List β → List β
  length_encrypt : ∀ key block, block.length = m → (encrypt key block).length = m
  length_decrypt : ∀ key block, block.length = m → (decrypt key block).length = m
  decrypt_encrypt : ∀ key block, block.length = m → decrypt key (encrypt key block) = block
  encrypt_decrypt : ∀ key block, block.length = m → encrypt key (decrypt key block) = block

/-- A cipher for data of whole blocks, given an initialisation vector. -/
structure IvCipher (Key β : Type) (m : Nat) where
  encrypt : Key → List β → List β → List β
  decrypt : Key → List β → List β → List β
  length_encrypt : ∀ key iv data, iv.length = m → m ∣ data.length →
    (encrypt key iv data).length = data.length
  length_decrypt : ∀ key iv data, iv.length = m → m ∣ data.length →
    (decrypt key iv data).length = data.length
  decrypt_encrypt : ∀ key iv data, iv.length = m → m ∣ data.length →
    decrypt key iv (encrypt key iv data) = data
  encrypt_decrypt : ∀ key iv data, iv.length = m → m ∣ data.length →
    encrypt key iv (decrypt key iv data) = data

/-- The same cipher for keys that come in another form. -/
def IvCipher.withKeys {Key' : Type} (cipher : IvCipher Key β m) (key : Key' → Key) :
    IvCipher Key' β m where
  encrypt k := cipher.encrypt (key k)
  decrypt k := cipher.decrypt (key k)
  length_encrypt k := cipher.length_encrypt (key k)
  length_decrypt k := cipher.length_decrypt (key k)
  decrypt_encrypt k := cipher.decrypt_encrypt (key k)
  encrypt_decrypt k := cipher.encrypt_decrypt (key k)

section Chaining

/-- Mixing twice with the same symbol changes nothing. -/
structure Mixing (β : Type) where
  mix : β → β → β
  mix_mix : ∀ a b, mix a (mix a b) = b

variable (mixing : Mixing β) (m) (E D : List β → List β)

def chainEncrypt : Nat → List β → List β → List β
  | 0, _, _ => []
  | n + 1, iv, data =>
    E (List.zipWith mixing.mix iv (data.take m)) ++
      chainEncrypt n (E (List.zipWith mixing.mix iv (data.take m))) (data.drop m)

def chainDecrypt : Nat → List β → List β → List β
  | 0, _, _ => []
  | n + 1, iv, data =>
    List.zipWith mixing.mix iv (D (data.take m)) ++ chainDecrypt n (data.take m) (data.drop m)

lemma zipWith_mix_mix {a b : List β} (h : a.length = b.length) :
    List.zipWith mixing.mix a (List.zipWith mixing.mix a b) = b := by
  induction a generalizing b with
  | nil =>
    cases b with
    | nil => rfl
    | cons y b => exact absurd h (by simp)
  | cons x a ih =>
    cases b with
    | nil => exact absurd h (by simp)
    | cons y b =>
      rw [List.zipWith_cons_cons, List.zipWith_cons_cons, mixing.mix_mix, ih (Nat.succ.inj h)]

variable {m mixing E D} {n : Nat} {iv data : List β}

/-- The first block and the rest. -/
lemma lengths_of_succ (h : data.length = (n + 1) * m) : (data.take m).length = m ∧
    (data.drop m).length = n * m := by
  rw [Nat.add_mul, Nat.one_mul] at h
  rw [List.length_take, List.length_drop]
  omega

lemma length_chainEncrypt (hE : ∀ block, block.length = m → (E block).length = m)
    (hiv : iv.length = m)
    (h : data.length = n * m) : (chainEncrypt m mixing E n iv data).length = n * m := by
  induction n generalizing iv data with
  | zero => simp [chainEncrypt]
  | succ n ih =>
    obtain ⟨hfirst, hrest⟩ := lengths_of_succ h
    have hblock : (E (List.zipWith mixing.mix iv (data.take m))).length = m := by
      apply hE
      rw [List.length_zipWith, hiv, hfirst, Nat.min_self]
    rw [chainEncrypt, List.length_append, hblock, ih hblock hrest, Nat.add_mul, Nat.one_mul,
      Nat.add_comm]

lemma length_chainDecrypt (hD : ∀ block, block.length = m → (D block).length = m)
    (hiv : iv.length = m)
    (h : data.length = n * m) : (chainDecrypt m mixing D n iv data).length = n * m := by
  induction n generalizing iv data with
  | zero => simp [chainDecrypt]
  | succ n ih =>
    obtain ⟨hfirst, hrest⟩ := lengths_of_succ h
    rw [chainDecrypt, List.length_append, List.length_zipWith, hiv, hD _ hfirst, Nat.min_self,
      ih hfirst hrest,
      Nat.add_mul, Nat.one_mul, Nat.add_comm]

/-- What was put in front is taken off again. -/
lemma chainDecrypt_chainEncrypt (hE : ∀ block, block.length = m → (E block).length = m)
    (hDE : ∀ block, block.length = m → D (E block) = block) (hiv : iv.length = m)
    (h : data.length = n * m) :
    chainDecrypt m mixing D n iv (chainEncrypt m mixing E n iv data) = data := by
  induction n generalizing iv data with
  | zero =>
    rw [Nat.zero_mul] at h
    rw [List.eq_nil_of_length_eq_zero h]
    rfl
  | succ n ih =>
    obtain ⟨hfirst, hrest⟩ := lengths_of_succ h
    have hmixed : (List.zipWith mixing.mix iv (data.take m)).length = m := by
      rw [List.length_zipWith, hiv, hfirst, Nat.min_self]
    have hblock := hE _ hmixed
    rw [chainEncrypt, chainDecrypt, List.take_left' hblock, List.drop_left' hblock, hDE _ hmixed,
      zipWith_mix_mix mixing (hiv.trans hfirst.symm), ih hblock hrest, List.take_append_drop]

lemma chainEncrypt_chainDecrypt (hD : ∀ block, block.length = m → (D block).length = m)
    (hED : ∀ block, block.length = m → E (D block) = block) (hiv : iv.length = m)
    (h : data.length = n * m) :
    chainEncrypt m mixing E n iv (chainDecrypt m mixing D n iv data) = data := by
  induction n generalizing iv data with
  | zero =>
    rw [Nat.zero_mul] at h
    rw [List.eq_nil_of_length_eq_zero h]
    rfl
  | succ n ih =>
    obtain ⟨hfirst, hrest⟩ := lengths_of_succ h
    have hplain := hD _ hfirst
    have hmixed : (List.zipWith mixing.mix iv (D (data.take m))).length = m := by
      rw [List.length_zipWith, hiv, hplain, Nat.min_self]
    rw [chainDecrypt, chainEncrypt, List.take_left' hmixed, List.drop_left' hmixed,
      zipWith_mix_mix mixing (hiv.trans hplain.symm), hED _ hfirst, ih hfirst hrest,
        List.take_append_drop]

/-- Cipher block chaining without padding. -/
def BlockCipher.chained (cipher : BlockCipher Key β m) (mixing : Mixing β) : IvCipher Key β m where
  encrypt key iv data := chainEncrypt m mixing (cipher.encrypt key) (data.length / m) iv data
  decrypt key iv data := chainDecrypt m mixing (cipher.decrypt key) (data.length / m) iv data
  length_encrypt key iv data hiv hdata := by
    rw [length_chainEncrypt (cipher.length_encrypt key) hiv (Nat.div_mul_cancel hdata).symm,
      Nat.div_mul_cancel hdata]
  length_decrypt key iv data hiv hdata := by
    rw [length_chainDecrypt (cipher.length_decrypt key) hiv (Nat.div_mul_cancel hdata).symm,
      Nat.div_mul_cancel hdata]
  decrypt_encrypt key iv data hiv hdata := by
    have hlength := (Nat.div_mul_cancel hdata).symm
    rw [length_chainEncrypt (cipher.length_encrypt key) hiv hlength, Nat.div_mul_cancel hdata]
    exact chainDecrypt_chainEncrypt (cipher.length_encrypt key) (cipher.decrypt_encrypt key) hiv
      hlength
  encrypt_decrypt key iv data hiv hdata := by
    have hlength := (Nat.div_mul_cancel hdata).symm
    rw [length_chainDecrypt (cipher.length_decrypt key) hiv hlength, Nat.div_mul_cancel hdata]
    exact chainEncrypt_chainDecrypt (cipher.length_decrypt key) (cipher.encrypt_decrypt key) hiv
      hlength

end Chaining

section Sectors

variable (size : Nat) (f g : Nat → List β → List β)

/-- Changes some sectors, of which the first has the given number. -/
def sectorwise : Nat → Nat → List β → List β
  | 0, _, _ => []
  | n + 1, number, data => f number (data.take size) ++ sectorwise n (number + 1) (data.drop size)

variable {size f g} {n : Nat} {data : List β} (number : Nat)

lemma length_sectorwise (hf : ∀ number sector, sector.length = size →
    (f number sector).length = size)
    (h : data.length = n * size) : (sectorwise size f n number data).length = n * size := by
  induction n generalizing number data with
  | zero => simp [sectorwise]
  | succ n ih =>
    obtain ⟨hfirst, hrest⟩ := lengths_of_succ h
    rw [sectorwise, List.length_append, hf _ _ hfirst, ih (number + 1) hrest, Nat.add_mul,
      Nat.one_mul, Nat.add_comm]

lemma readAt_sectorwise (hf : ∀ number sector, sector.length = size →
    (f number sector).length = size)
    (h : data.length = n * size) {i : Nat} (hi : i < n) :
    readAt (sectorwise size f n number data) (i * size) size =
      f (number + i) (readAt data (i * size) size) := by
  induction n generalizing number data i with
  | zero => omega
  | succ n ih =>
    obtain ⟨hfirst, hrest⟩ := lengths_of_succ h
    have hsector := hf number _ hfirst
    cases i with
    | zero =>
      unfold readAt
      rw [sectorwise, Nat.zero_mul, List.drop_zero, List.drop_zero, List.take_left' hsector]
      rfl
    | succ i =>
      have hskip : readAt (sectorwise size f (n + 1) number data) ((i + 1) * size) size =
          readAt (sectorwise size f n (number + 1) (data.drop size)) (i * size) size := by
        unfold readAt
        rw [sectorwise, Nat.add_mul, Nat.one_mul, Nat.add_comm, ← List.drop_drop,
          List.drop_left' hsector]
      have hskipData : readAt data ((i + 1) * size) size =
          readAt (data.drop size) (i * size) size := by
        unfold readAt
        rw [Nat.add_mul, Nat.one_mul, Nat.add_comm, ← List.drop_drop]
      rw [hskip, hskipData, ih (number + 1) hrest (by omega), Nat.add_right_comm]
      rfl

/-- What is undone sector by sector is undone. -/
lemma sectorwise_sectorwise (hf : ∀ number sector, sector.length = size →
    (f number sector).length = size)
    (hgf : ∀ number sector, sector.length = size → g number (f number sector) = sector)
    (h : data.length = n * size) :
    sectorwise size g n number (sectorwise size f n number data) = data := by
  induction n generalizing number data with
  | zero =>
    rw [Nat.zero_mul] at h
    rw [List.eq_nil_of_length_eq_zero h]
    rfl
  | succ n ih =>
    obtain ⟨hfirst, hrest⟩ := lengths_of_succ h
    have hsector := hf number _ hfirst
    rw [sectorwise, sectorwise, List.take_left' hsector, List.drop_left' hsector, hgf _ _ hfirst,
      ih (number + 1) hrest,
      List.take_append_drop]

end Sectors

end RaucUpdate.Library
