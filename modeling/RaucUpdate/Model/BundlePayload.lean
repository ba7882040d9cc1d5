import RaucUpdate.Model.ManifestChecks
import RaucUpdate.Model.VerityHash

/-!
# Verification of the payload of a bundle

`check_bundle_payload` of `bundle.c`. The verity hash, the salt and the size of the hash tree come
from the signed manifest, the size of the payload comes from the file.
-/

namespace RaucUpdate

open Library

/-- A bundle that was opened: the local file, if it is not streamed, and what has been checked so
far. -/
structure RaucBundle where
  path : String
  stream : Option (List UInt8) := none
  size : Nat := 0
  manifest : Option RaucManifest := none
  wasEncrypted : Bool := false
  verificationDisabled : Bool := false
  signatureVerified : Bool := false
  payloadVerified : Bool := false
  exclusiveVerified : Bool := false
  exclusiveCheckError : String := ""
  mountPoint : Option String := none

/-- The difference of two sizes as an offset with a sign, calculated in 64 bits. -/
def offsetDifference (size veritySize : Nat) : Int :=
  let bits : Nat := (size + 2 ^ 64 - veritySize) % 2 ^ 64
  if bits < 2 ^ 63 then (bits : Int) else (bits : Int) - 2 ^ 64

/-- `data_size`. -/
def RaucBundle.dataSize (bundle : RaucBundle) (manifest : RaucManifest) : Int :=
  offsetDifference bundle.size manifest.bundleVeritySize.toNat

/-- The number of blocks that is handed to the verification, as an unsigned number. -/
def RaucBundle.dataBlocks (bundle : RaucBundle) (manifest : RaucManifest) : Nat :=
  (bundle.dataSize manifest / 4096 % 2 ^ 64).toNat

section Payload

variable (sha256 : List UInt8 → Digest)

def verifyPayload (bundle : RaucBundle) (manifest : RaucManifest)
    (file rootDigest salt : List UInt8) :
    Outcome GError RaucBundle :=
  if bundle.size % 4096 ≠ 0 then .exit (.aborted "combined_size % 4096 == 0")
  else if bundle.dataSize manifest % 4096 ≠ 0 then .exit (.aborted "data_size % 4096 == 0")
  else
    match rVerityHashVerify sha256 file (bundle.dataBlocks manifest) rootDigest salt with
    | .ok () => .value { bundle with manifest := some manifest, payloadVerified := true }
    | .error _ => .exit (.error ⟨.bundlePayload, "bundle payload is corrupted"⟩)

def checkBundlePayload (bundle : RaucBundle) : Outcome GError RaucBundle :=
  if bundle.verificationDisabled ∨ bundle.payloadVerified then .value bundle
  else
    match bundle.stream with
    | none =>
      .exit (.error ⟨.bundleUnsafe,
        "Refused to verify remote bundle. Provide a local bundle instead."⟩)
    | some file =>
      if ¬bundle.exclusiveVerified then
        .exit (.error ⟨.bundleUnsafe,
          "cannot check bundle payload without exclusive access: " ++ bundle.exclusiveCheckError⟩)
      else
        match bundle.manifest with
        | none => .exit (.aborted "plain bundles must be verified during signature check")
        | some manifest =>
          match checkManifestExternal manifest with
          | .error e => .exit (.error e)
          | .ok manifest =>
            match manifest.bundleFormat with
            | .plain => .exit (.aborted "plain bundles must be verified during signature check")
            | .verity | .crypt =>
              match manifest.bundleVerityHash.bind (fun hex => rHexDecode hex 32),
                manifest.bundleVeritySalt.bind (fun hex => rHexDecode hex 32) with
              | none, _ => .exit (.aborted "root_digest")
              | _, none => .exit (.aborted "salt")
              | some rootDigest, some salt =>
                verifyPayload sha256 bundle manifest file rootDigest salt

end Payload

end RaucUpdate
