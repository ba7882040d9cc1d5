import Mathlib.Algebra.Group.Nat.Defs
import RaucUpdate.Library.Aes
import RaucUpdate.Library.SurePrograms
import RaucUpdate.Model.Crypt

/-!
# Encryption and decryption of a payload

The loop changes its input sector by sector, each with the vector of its number, until the input
ends or the sector in hand is beyond the limit. Decryption with the vectors of the encryption gives
the payload back.
-/

namespace RaucUpdate

open Library

section Vectors

lemma length_ivPlain64 (sector : UInt64) : (ivPlain64 sector).length = 16 := by
  unfold ivPlain64
  rw [List.length_append, length_littleEndian, List.length_replicate]

/-- As long as the multiplication does not overflow, the vector is the number of the 512-byte
sector. -/
lemma ivPlain64_eq {i : Nat} (hi : i < 2 ^ 52) :
    ivPlain64 (UInt64.ofNat i) = littleEndian 8 (8 * i) ++ List.replicate 8 0 := by
  have hsector : (UInt64.ofNat i * UInt64.ofNat encSecSize / 512).toNat = 8 * i := by
    unfold encSecSize
    rw [UInt64.toNat_div, UInt64.toNat_mul, UInt64.toNat_ofNat', UInt64.toNat_ofNat']
    simp
    omega
  unfold ivPlain64
  rw [hsector]

end Vectors

section Sectors

variable {Key : Type} (cipher : IvCipher Key UInt8 16) (encrypt : Bool) (key : Key)

/-- What is done to the sector with a number. -/
def cryptSector (number : Nat) (sector : List UInt8) : List UInt8 :=
  evpCipher cipher encrypt key (ivPlain64 (UInt64.ofNat number)) sector

lemma length_cryptSector (number : Nat) (sector : List UInt8) (h : sector.length = encSecSize) :
    (cryptSector cipher encrypt key number sector).length = encSecSize := by
  have hblocks : 16 ∣ sector.length := by
    rw [h]
    decide
  unfold cryptSector evpCipher
  cases encrypt with
  | true => rw [if_pos rfl, cipher.length_encrypt key _ _ (length_ivPlain64 _) hblocks, h]
  | false => rw [if_neg (by decide), cipher.length_decrypt key _ _ (length_ivPlain64 _) hblocks, h]

lemma cryptSector_cryptSector (number : Nat) (sector : List UInt8)
    (h : sector.length = encSecSize) :
    cryptSector cipher false key number (cryptSector cipher true key number sector) = sector := by
  have hblocks : 16 ∣ sector.length := by
    rw [h]
    decide
  exact cipher.decrypt_encrypt key _ sector (length_ivPlain64 _) hblocks

/-- The output holds this, and the other files are as they were. -/
def OutputHolds (files : Table String (List UInt8)) (outpath : String) (content : List UInt8)
    (files' : Table String (List UInt8)) : Prop :=
  files'.lookup outpath = some content ∧ ∀ path, path ≠ outpath → files'.lookup path =
    files.lookup path

variable {cipher encrypt key} {files : Table String (List UInt8)} {outpath : String}
  {maxsize : Int} {donesize : Nat}

lemma sure_evpCipherInit {P : Table String (List UInt8) → Prop} (reason : String) :
    Prog.Sure P (evpCipherInit reason) (fun _ => P) := by
  apply Prog.sure_ask_bind
  · exact Prog.sure_pure (fun _ hs => hs)
  · exact fun _ => Prog.triple_exit (fun _ _ => trivial)

lemma sure_appendOutput {content : List UInt8} (outbuf : List UInt8) :
    Prog.Sure (OutputHolds files outpath content) (appendOutput outpath outbuf)
      (fun _ => OutputHolds files outpath (content ++ outbuf)) := by
  apply Prog.sure_modify
  rintro s ⟨hout, hothers⟩
  refine ⟨?_, fun path hpath => ?_⟩
  · rw [Table.lookup_set, if_pos rfl, hout, Option.getD_some]
  · rw [Table.lookup_set, if_neg (Ne.symm hpath), hothers path hpath]

variable (cipher encrypt key files outpath maxsize)

/-- One sector of the input and the rest. -/
lemma cryptSectors_sector {sector : List UInt8} (rest : List UInt8)
    (hsector : sector.length = encSecSize)
    (hlimit : ¬(maxsize ≠ 0 ∧ (donesize + encSecSize : Nat) > maxsize)) (number : Nat) :
    cryptSectors cipher encrypt key maxsize outpath (UInt64.ofNat number) donesize
      (sector ++ rest) = (do
      evpCipherInit "Error setting key and iv"
      Prog.external id (fun _ => ⟨.cryptFailed, "EVP_CipherUpdate() failed"⟩)
      appendOutput outpath (cryptSector cipher encrypt key number sector)
      Prog.external id (fun _ => ⟨.cryptFailed, "EVP_CipherFinal_ex() failed"⟩)
      cryptSectors cipher encrypt key maxsize outpath (UInt64.ofNat (number + 1))
        (donesize + encSecSize) rest) := by
  have hnext : UInt64.ofNat (number + 1) = UInt64.ofNat number + 1 := UInt64.ofNat_add number 1
  have hpos : sector.length ≠ 0 := by
    rw [hsector]
    decide
  rw [cryptSectors.eq_def, List.take_left' hsector, List.drop_left' hsector, dif_neg hpos,
    if_neg (by omega), hsector,
    if_neg hlimit, hnext]
  rfl

/-- The loop over whole sectors within the limit, whatever follows them. -/
lemma cryptSectors_append {n : Nat} {data : List UInt8} (number donesize : Nat)
    (content tail : List UInt8)
    (hdata : data.length = n * encSecSize) (hlimit : maxsize = 0 ∨
      (donesize + n * encSecSize : Nat) ≤ maxsize) :
    ∃ sectors : CryptProg Unit,
      cryptSectors cipher encrypt key maxsize outpath (UInt64.ofNat number) donesize
        (data ++ tail) = (do
        sectors
        cryptSectors cipher encrypt key maxsize outpath (UInt64.ofNat (number + n))
          (donesize + n * encSecSize) tail) ∧
      Prog.Sure (OutputHolds files outpath content) sectors (fun _ =>
        OutputHolds files outpath (content ++ sectorwise encSecSize
          (cryptSector cipher encrypt key) n number data)) := by
  induction n generalizing number donesize data content with
  | zero =>
    rw [Nat.zero_mul] at hdata
    rw [List.eq_nil_of_length_eq_zero hdata, Nat.zero_mul]
    refine ⟨pure (), rfl, Prog.sure_pure (fun s hs => ?_)⟩
    rwa [sectorwise, List.append_nil]
  | succ n ih =>
    obtain ⟨hsector, hrest⟩ := lengths_of_succ hdata
    have hsize : donesize + encSecSize + n * encSecSize = donesize + (n + 1) * encSecSize := by
      rw [Nat.add_mul, Nat.one_mul]
      omega
    have hwithin : ¬(maxsize ≠ 0 ∧ (donesize + encSecSize : Nat) > maxsize) := by
      rintro ⟨hne, hover⟩
      rcases hlimit with hzero | hle
      · exact hne hzero
      · rw [← hsize] at hle
        omega
    have hlimit' : maxsize = 0 ∨ (donesize + encSecSize + n * encSecSize : Nat) ≤ maxsize := by
      rwa [hsize]
    obtain ⟨sectors, hrun, hsure⟩ := ih (number + 1) (donesize + encSecSize)
      (content ++ cryptSector cipher encrypt key number (data.take encSecSize)) hrest hlimit'
    refine ⟨do
      evpCipherInit "Error setting key and iv"
      Prog.external id (fun _ => ⟨.cryptFailed, "EVP_CipherUpdate() failed"⟩)
      appendOutput outpath (cryptSector cipher encrypt key number (data.take encSecSize))
      Prog.external id (fun _ => ⟨.cryptFailed, "EVP_CipherFinal_ex() failed"⟩)
      sectors, ?_, ?_⟩
    · have hfirst := cryptSectors_sector cipher encrypt key outpath maxsize
        (data.drop encSecSize ++ tail) hsector
        hwithin number
      rw [← List.append_assoc, List.take_append_drop] at hfirst
      have hcount : number + 1 + n = number + (n + 1) := by omega
      rw [hfirst, hrun, hsize, hcount]
      simp only [Prog.bind_bind]
    · apply Prog.sure_bind (sure_evpCipherInit _)
      intro _
      apply Prog.sure_bind Prog.sure_external_id
      intro _
      apply Prog.sure_bind (sure_appendOutput _)
      intro _
      apply Prog.sure_bind Prog.sure_external_id
      intro _
      rw [sectorwise, ← List.append_assoc]
      exact hsure

variable {cipher encrypt key files outpath maxsize}

/-- The loop ends with its input. -/
lemma sure_cryptSectors_end {P : Table String (List UInt8) → Prop} (sectorCount : UInt64) :
    Prog.Sure P (cryptSectors cipher encrypt key maxsize outpath sectorCount donesize [])
      (fun _ => P) := by
  rw [cryptSectors.eq_def]
  apply Prog.sure_bind (sure_evpCipherInit _)
  intro _
  exact Prog.sure_pure (fun _ hs => hs)

/-- The loop ends at the limit, when there is a whole sector behind it. -/
lemma sure_cryptSectors_limit {P : Table String (List UInt8) → Prop} (sectorCount : UInt64)
    {tail : List UInt8}
    (htail : encSecSize ≤ tail.length) (hlimit : maxsize ≠ 0 ∧
      (donesize + encSecSize : Nat) > maxsize) :
    Prog.Sure P (cryptSectors cipher encrypt key maxsize outpath sectorCount donesize tail)
      (fun _ => P) := by
  have hsector : (tail.take encSecSize).length = encSecSize := by
    rw [List.length_take]
    omega
  rw [cryptSectors.eq_def]
  apply Prog.sure_bind (sure_evpCipherInit _)
  intro _
  rw [hsector, dif_neg (by decide), if_neg (by omega), if_pos hlimit]
  exact Prog.sure_pure (fun _ hs => hs)

/-- A part of a sector is an error. -/
lemma refuses_cryptSectors {P : Table String (List UInt8) → Prop} (sectorCount : UInt64)
    {tail : List UInt8}
    (hpos : 0 < tail.length) (hshort : tail.length < encSecSize) :
    Prog.Refuses P (cryptSectors cipher encrypt key maxsize outpath sectorCount donesize tail)
      ⟨.cryptFailed, "Incomplete read: Input size must be multiple of 4096 (got only " ++
        formatNat 10 tail.length ++
        " bytes)"⟩ := by
  have htake : tail.take encSecSize = tail := List.take_of_length_le (by omega)
  rw [cryptSectors.eq_def]
  apply Prog.refuses_bind (sure_evpCipherInit _)
  intro _
  rw [htake, dif_neg (by omega), if_pos hshort]
  exact Prog.refuses_fail

end Sectors

section Files

variable {Key : Type} (cipher : IvCipher Key UInt8 16) (encrypt : Bool) (key : Key)
  {files : Table String (List UInt8)} {inpath outpath : String} {input : List UInt8} {maxsize : Int}

/-- The output is empty when the loop starts. -/
lemma outputHolds_opened (files : Table String (List UInt8)) (outpath : String) :
    OutputHolds files outpath [] (files.set outpath []) := by
  refine ⟨by rw [Table.lookup_set, if_pos rfl], fun path hpath => ?_⟩
  rw [Table.lookup_set, if_neg (Ne.symm hpath)]

lemma lookup_opened (hpaths : inpath ≠ outpath) (hinput : files.lookup inpath = some input) :
    ((files.set outpath []).lookup inpath).getD [] = input := by
  rw [Table.lookup_set, if_neg (Ne.symm hpaths), hinput, Option.getD_some]

lemma sure_openOutput {report : Failure → GError} (files : Table String (List UInt8))
    (outpath : String) :
    Prog.Sure (fun s => s = files) (Prog.external (fun files => files.set outpath []) report)
      (fun _ s => s = files.set outpath []) := by
  apply Prog.sure_external
  rintro _ rfl
  rfl

/-- Whole sectors, then the end of the input or a sector beyond the limit. -/
lemma sure_rCryptEncryptOrDecrypt {n : Nat} {data tail : List UInt8} (hpaths : inpath ≠ outpath)
    (hinput : files.lookup inpath = some (data ++ tail)) (hdata : data.length = n * encSecSize)
    (htail : tail = [] ∧ (maxsize = 0 ∨ (data.length : Nat) ≤ maxsize) ∨
      encSecSize ≤ tail.length ∧ maxsize ≠ 0 ∧ (data.length : Nat) = maxsize) :
    Prog.Sure (fun s => s = files) (rCryptEncryptOrDecrypt cipher encrypt key inpath
      outpath maxsize)
      (fun _ => OutputHolds files outpath (sectorwise encSecSize (cryptSector cipher encrypt key) n
        0 data)) := by
  have hlimit : maxsize = 0 ∨ (0 + n * encSecSize : Nat) ≤ maxsize := by
    rw [Nat.zero_add, ← hdata]
    rcases htail with ⟨-, hwithin⟩ | ⟨-, -, heq⟩
    · exact hwithin
    · exact Or.inr (le_of_eq heq)
  obtain ⟨sectors, hrun, hsure⟩ := cryptSectors_append cipher encrypt key files outpath maxsize 0 0
    [] tail hdata hlimit
  apply Prog.sure_bind Prog.sure_external_id
  intro _
  apply Prog.sure_read_bind
  intro s hs
  obtain rfl := hs.symm
  rw [hinput]
  apply Prog.sure_bind (sure_openOutput files outpath)
  intro _
  apply Prog.sure_read_bind
  intro s hs
  obtain rfl := hs.symm
  rw [lookup_opened hpaths hinput]
  apply Prog.sure_mapError
  apply Prog.sure_bind (sure_evpCipherInit _)
  intro _
  have hstart : cryptSectors cipher encrypt key maxsize outpath 0 0 (data ++ tail) = _ := hrun
  rw [hstart]
  apply Prog.sure_bind (Prog.sure_consequence hsure ?_ (fun _ _ hs => hs))
  · intro _
    rcases htail with ⟨rfl, -⟩ | ⟨hlong, hne, heq⟩
    · exact sure_cryptSectors_end _
    · apply sure_cryptSectors_limit _ hlong
      rw [Nat.zero_add, ← hdata]
      refine ⟨hne, ?_⟩
      have hpos : 0 < encSecSize := by decide
      omega
  · rintro _ rfl
    exact outputHolds_opened files outpath

/-- Whole sectors and then a part of one. -/
lemma refuses_rCryptEncryptOrDecrypt {n : Nat} {data tail : List UInt8} (hpaths : inpath ≠ outpath)
    (hinput : files.lookup inpath = some (data ++ tail)) (hdata : data.length = n * encSecSize)
    (hpos : 0 < tail.length)
    (hshort : tail.length < encSecSize) :
    Prog.Refuses (fun s => s = files) (rCryptEncryptOrDecrypt cipher encrypt key inpath outpath 0)
      (GError.prefixed ("Failed to " ++ (if encrypt then "encrypt" else "decrypt") ++ " image: ")
        ⟨.cryptFailed, "Incomplete read: Input size must be multiple of 4096 (got only " ++
          formatNat 10 tail.length ++
          " bytes)"⟩) := by
  obtain ⟨sectors, hrun, hsure⟩ := cryptSectors_append cipher encrypt key files outpath 0 0 0 []
    tail hdata (Or.inl rfl)
  apply Prog.refuses_bind Prog.sure_external_id
  intro _
  apply Prog.refuses_read_bind
  intro s hs
  obtain rfl := hs.symm
  rw [hinput]
  apply Prog.refuses_bind (sure_openOutput files outpath)
  intro _
  apply Prog.refuses_read_bind
  intro s hs
  obtain rfl := hs.symm
  rw [lookup_opened hpaths hinput]
  apply Prog.refuses_mapError
  apply Prog.refuses_bind (sure_evpCipherInit _)
  intro _
  have hstart : cryptSectors cipher encrypt key 0 outpath 0 0 (data ++ tail) = _ := hrun
  rw [hstart]
  apply Prog.refuses_bind (Prog.sure_consequence hsure ?_ (fun _ _ hs => hs))
  · intro _
    exact refuses_cryptSectors _ hpos hshort
  · rintro _ rfl
    exact outputHolds_opened files outpath

/-- The codec of a payload: which bytes the encryption gives, that the decryption gives the payload
back when a tail follows them, and that no input of another length is encrypted. -/
theorem crypt_codec (payload tail : List UInt8) (hpositive : 0 < payload.length)
    (hsectors : encSecSize ∣ payload.length)
    (htail : tail = [] ∨ encSecSize ≤ tail.length) :
    (∃ encrypted : List UInt8, encrypted.length = payload.length ∧
      (∀ i < payload.length / encSecSize,
        readAt encrypted (i * encSecSize) encSecSize =
          cipher.encrypt key (ivPlain64 (UInt64.ofNat i))
            (readAt payload (i * encSecSize) encSecSize) ∧
        (i < 2 ^ 52 → ivPlain64 (UInt64.ofNat i) = littleEndian 8 (8 * i) ++ List.replicate 8 0)) ∧
      ∀ (files : Table String (List UInt8)) (inpath outpath : String), inpath ≠ outpath →
        (files.lookup inpath = some payload →
          Prog.Sure (fun s => s = files) (rCryptEncrypt cipher key inpath outpath)
            (fun _ => OutputHolds files outpath encrypted)) ∧
        (files.lookup inpath = some (encrypted ++ tail) →
          Prog.Sure (fun s => s = files) (rCryptDecrypt cipher key inpath outpath payload.length)
            (fun _ => OutputHolds files outpath payload))) ∧
    ∀ (files : Table String (List UInt8)) (inpath outpath : String) (input : List UInt8),
      inpath ≠ outpath →
      files.lookup inpath = some input → ¬encSecSize ∣ input.length →
      Prog.Refuses (fun s => s = files) (rCryptEncrypt cipher key inpath outpath)
        (GError.prefixed "Failed to encrypt image: " ⟨.cryptFailed,
          "Incomplete read: Input size must be multiple of 4096 (got only " ++
            formatNat 10 (input.length % encSecSize) ++ " bytes)"⟩) := by
  obtain ⟨n, hn⟩ := hsectors
  have hdata : payload.length = n * encSecSize := hn.trans (Nat.mul_comm _ _)
  have hpos : 0 < encSecSize := by decide
  have hcount : payload.length / encSecSize = n := by rw [hdata, Nat.mul_div_cancel _ hpos]
  have hlength := length_sectorwise 0 (length_cryptSector cipher true key) hdata
  constructor
  · refine ⟨sectorwise encSecSize (cryptSector cipher true key) n 0 payload,
      hlength.trans hdata.symm, ?_, ?_⟩
    · intro i hi
      rw [hcount] at hi
      have hsector := readAt_sectorwise 0 (length_cryptSector cipher true key) hdata hi
      rw [Nat.zero_add] at hsector
      exact ⟨hsector, ivPlain64_eq⟩
    · intro files inpath outpath hpaths
      constructor
      · intro hinput
        rw [← List.append_nil payload] at hinput
        exact sure_rCryptEncryptOrDecrypt cipher true key hpaths hinput hdata (.inl ⟨rfl, .inl rfl⟩)
      · intro hinput
        have hsize :
            ((sectorwise encSecSize (cryptSector cipher true key) n 0 payload).length : Int) =
            payload.length := by
          rw [hlength, hdata]
        have hend : tail = [] ∧ ((payload.length : Int) = 0 ∨
              ((sectorwise encSecSize (cryptSector cipher true key) n 0 payload).length : Int) ≤
                payload.length) ∨
            encSecSize ≤ tail.length ∧ (payload.length : Int) ≠ 0 ∧
              ((sectorwise encSecSize (cryptSector cipher true key) n 0 payload).length : Int) =
                payload.length := by
          rcases htail with hnil | hlong
          · exact .inl ⟨hnil, .inr (le_of_eq hsize)⟩
          · exact .inr ⟨hlong, by omega, hsize⟩
        have hback := sure_rCryptEncryptOrDecrypt cipher false key hpaths hinput hlength hend
        rwa [sectorwise_sectorwise 0 (length_cryptSector cipher true key)
          (cryptSector_cryptSector cipher key) hdata]
          at hback
  · intro files inpath outpath input hpaths hinput hnot
    have hwhole : (input.take (input.length / encSecSize * encSecSize)).length =
        input.length / encSecSize * encSecSize := by
      rw [List.length_take, Nat.min_eq_left (Nat.div_mul_le_self _ _)]
    have hrest : (input.drop (input.length / encSecSize * encSecSize)).length =
        input.length % encSecSize := by
      have hsplit := Nat.div_add_mod' input.length encSecSize
      rw [List.length_drop]
      omega
    have hshort := Nat.mod_lt input.length hpos
    have hsome : 0 < input.length % encSecSize :=
      Nat.pos_of_ne_zero (fun hzero => hnot (Nat.dvd_of_mod_eq_zero hzero))
    rw [← List.take_append_drop (input.length / encSecSize * encSecSize) input] at hinput
    have hrefused := refuses_rCryptEncryptOrDecrypt cipher true key hpaths hinput hwhole
      (by omega) (by omega)
    rwa [hrest] at hrefused

/-- A sector of zeroes, decrypted in front of 5000 bytes of signature and hash tree. -/
theorem crypt_codec_aes256 :
    ∃ encrypted : List UInt8, encrypted.length = 4096 ∧
      Prog.Sure (fun s => s = Table.empty.set "payload" (List.replicate 4096 0))
        (rCryptEncrypt Aes.aes256Cbc (Vector.replicate 32 0x2b) "payload" "bundle")
        (fun _ => OutputHolds (Table.empty.set "payload" (List.replicate 4096 0)) "bundle"
          encrypted) ∧
      Prog.Sure (fun s => s = Table.empty.set "bundle" (encrypted ++ List.replicate 5000 1))
        (rCryptDecrypt Aes.aes256Cbc (Vector.replicate 32 0x2b) "bundle" "payload" 4096)
        (fun _ => OutputHolds (Table.empty.set "bundle" (encrypted ++ List.replicate 5000 1))
          "payload"
          (List.replicate 4096 0)) := by
  have hlength : (List.replicate 4096 (0 : UInt8)).length = 4096 := List.length_replicate
  have hsectors : encSecSize ∣ (List.replicate 4096 (0 : UInt8)).length := by
    rw [hlength]
    decide
  have htail : encSecSize ≤ (List.replicate 5000 (1 : UInt8)).length := by
    rw [List.length_replicate]
    decide
  obtain ⟨⟨encrypted, hencrypted, -, hfiles⟩, -⟩ :=
    crypt_codec Aes.aes256Cbc (Vector.replicate 32 0x2b)
    (List.replicate 4096 0) (List.replicate 5000 1) (by rw [hlength]; decide) hsectors (.inr htail)
  refine ⟨encrypted, hencrypted.trans hlength, ?_, ?_⟩
  · exact (hfiles _ "payload" "bundle" (by decide)).1 (by rw [Table.lookup_set, if_pos rfl])
  · have hback :=
      (hfiles (Table.empty.set "bundle" (encrypted ++ List.replicate 5000 1)) "bundle" "payload"
      (by decide)).2 (by rw [Table.lookup_set, if_pos rfl])
    rw [hlength] at hback
    exact hback

end Files

end RaucUpdate
