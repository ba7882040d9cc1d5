import RaucUpdate.Library.Ciphers
import RaucUpdate.Model.Artifacts

/-!
# Encrypted payloads

The functions of `crypt.c`. The cipher stands for the calls with `EVP_aes_256_cbc` and without
padding; each of these calls and each opening of a file can fail. What is read from an open file is
what the file holds.
-/

namespace RaucUpdate

open Library

def encSecSize : Nat := 4096

/-- The number of the sector in units of 512 bytes, and zeroes. -/
def ivPlain64 (sector : UInt64) : List UInt8 :=
  littleEndian 8 (sector * UInt64.ofNat encSecSize / 512).toNat ++ List.replicate 8 0

abbrev CryptProg := Prog (Table String (List UInt8)) GError

section Crypt

variable {Key : Type} (cipher : IvCipher Key UInt8 16) (encrypt : Bool) (key : Key)

def evpCipher (iv inbuf : List UInt8) : List UInt8 :=
  if encrypt then cipher.encrypt key iv inbuf else cipher.decrypt key iv inbuf

/-- `EVP_CipherInit_ex`, whose failure ends the process. -/
def evpCipherInit (reason : String) : CryptProg Unit := do
  match ← Prog.ask with
  | none => return ()
  | some _ => Prog.abort reason

/-- `fwrite` at the end of the output. -/
def appendOutput (outpath : String) (outbuf : List UInt8) : CryptProg Unit :=
  Prog.modify (fun files => files.set outpath ((files.lookup outpath).getD [] ++ outbuf))

/-- The loop over the sectors, given what is left of the input. The initialisation vector is set up
before it is known whether there is another sector. -/
def cryptSectors (maxsize : Int) (outpath : String) (sectorCount : UInt64) (donesize : Nat)
    (rest : List UInt8) :
    CryptProg Unit := do
  evpCipherInit "Error setting key and iv"
  if _hempty : (rest.take encSecSize).length = 0 then return ()
  else if (rest.take encSecSize).length < encSecSize then
    Prog.fail ⟨.cryptFailed, "Incomplete read: Input size must be multiple of 4096 (got only " ++
      formatNat 10 (rest.take encSecSize).length ++ " bytes)"⟩
  else if maxsize ≠ 0 ∧ (donesize + (rest.take encSecSize).length : Nat) > maxsize then return ()
  else
    Prog.external id (fun _ => ⟨.cryptFailed, "EVP_CipherUpdate() failed"⟩)
    appendOutput outpath (evpCipher cipher encrypt key (ivPlain64 sectorCount)
      (rest.take encSecSize))
    Prog.external id (fun _ => ⟨.cryptFailed, "EVP_CipherFinal_ex() failed"⟩)
    cryptSectors maxsize outpath (sectorCount + 1) (donesize + (rest.take encSecSize).length)
      (rest.drop encSecSize)
termination_by rest.length
decreasing_by
  unfold encSecSize at _hempty ⊢
  rw [List.length_take] at _hempty
  rw [List.length_drop]
  omega

def encryptOrDecrypt (maxsize : Int) (outpath : String) (input : List UInt8) : CryptProg Unit := do
  evpCipherInit "Error setting cipher"
  cryptSectors cipher encrypt key maxsize outpath 0 0 input

def rCryptEncryptOrDecrypt (inpath outpath : String) (maxsize : Int) : CryptProg Unit := do
  Prog.external id (fsError ("Failed opening " ++ inpath ++ " for reading: "))
  let files ← Prog.read
  match files.lookup inpath with
  | none =>
    Prog.fail ⟨.fileError, "Failed opening " ++ inpath ++ " for reading: No such file or directory"⟩
  | some _ =>
    Prog.external (fun files => files.set outpath [])
      (fsError ("Failed opening temporary file " ++ outpath ++ " for writing: "))
    let files ← Prog.read
    Prog.mapError (GError.prefixed ("Failed to " ++ (if encrypt then "encrypt" else "decrypt") ++
      " image: "))
      (encryptOrDecrypt cipher encrypt key maxsize outpath ((files.lookup inpath).getD []))

def rCryptEncrypt (inpath outpath : String) : CryptProg Unit :=
  rCryptEncryptOrDecrypt cipher true key inpath outpath 0

def rCryptDecrypt (inpath outpath : String) (maxsize : Int) : CryptProg Unit :=
  rCryptEncryptOrDecrypt cipher false key inpath outpath maxsize

end Crypt

end RaucUpdate
