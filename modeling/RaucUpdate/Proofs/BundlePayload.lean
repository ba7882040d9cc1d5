import RaucUpdate.Model.BundlePayload
import RaucUpdate.Proofs.ManifestChecks
import RaucUpdate.Proofs.VerityHash

/-!
# What the signed verity hash says about the payload

The size of the payload is not signed. Two files of one size that are accepted for a manifest have
the same payload. A shorter file can be accepted too: its payload is then a level of the hash tree
of the longer one.
-/

namespace RaucUpdate

open Library BlockHash

section Accepted

variable {sha256 : List UInt8 → Digest} {m : RaucManifest} {file : List UInt8} {bundle : RaucBundle}

def veritySalt (m : RaucManifest) : List UInt8 :=
  (m.bundleVeritySalt.bind (fun hex => rHexDecode hex 32)).getD []

def verityRoot (m : RaucManifest) : List UInt8 :=
  (m.bundleVerityHash.bind (fun hex => rHexDecode hex 32)).getD []

/-- A local file with this signed manifest, of which the payload is checked and accepted. -/
structure PayloadAccepted (sha256 : List UInt8 → Digest) (m : RaucManifest) (file : List UInt8)
    (bundle : RaucBundle) :
    Prop where
  stream : bundle.stream = some file
  manifest : bundle.manifest = some m
  enabled : bundle.verificationDisabled = false
  unverified : bundle.payloadVerified = false
  size_lt : bundle.size < 2 ^ 63
  accepted : ∃ out, checkBundlePayload sha256 bundle = .value out

/-- The first bytes of the file, as many as the code calculates. -/
def RaucBundle.payload (bundle : RaucBundle) (manifest : RaucManifest) : List UInt8 :=
  readAt (bundle.stream.getD []) 0 (bundle.dataSize manifest).toNat

/-- The hash tree over the data blocks has the size that is signed. -/
def RaucBundle.HashTreeFits (bundle : RaucBundle) (manifest : RaucManifest) : Prop :=
  ∃ levels, hashLevels (bundle.dataBlocks manifest) = .ok (levels, bundle.size / 4096)

/-- The payload that is accepted has been verified against the signed hash. -/
lemma PayloadAccepted.verified (h : PayloadAccepted sha256 m file bundle) :
    bundle.dataSize m % 4096 = 0 ∧ bundle.size % 4096 = 0 ∧
      rVerityHashVerify sha256 file (bundle.dataBlocks m) (verityRoot m) (veritySalt m) =
        .ok () := by
  obtain ⟨out, haccepted⟩ := h.accepted
  unfold checkBundlePayload at haccepted
  rw [if_neg (by simp [h.enabled, h.unverified]), h.stream, h.manifest] at haccepted
  simp only at haccepted
  split_ifs at haccepted with hexclusive
  cases hcheck : checkManifestExternal m with
  | error e =>
    rw [hcheck] at haccepted
    exact absurd haccepted (by simp)
  | ok m' =>
    obtain ⟨images, -, rfl⟩ := checkManifestExternal_ok hcheck
    rw [hcheck] at haccepted
    simp only at haccepted
    unfold verityRoot veritySalt
    cases hroot : m.bundleVerityHash.bind (fun hex => rHexDecode hex 32) with
    | none =>
      rw [hroot] at haccepted
      cases hformat : m.bundleFormat with
      | plain => simp [hformat] at haccepted
      | verity => simp [hformat] at haccepted
      | crypt => simp [hformat] at haccepted
    | some root =>
      cases hsalt : m.bundleVeritySalt.bind (fun hex => rHexDecode hex 32) with
      | none =>
        rw [hroot, hsalt] at haccepted
        cases hformat : m.bundleFormat with
        | plain => simp [hformat] at haccepted
        | verity => simp [hformat] at haccepted
        | crypt => simp [hformat] at haccepted
      | some salt =>
        rw [hroot, hsalt] at haccepted
        have hverify : verifyPayload sha256 bundle { m with images := images } file root salt =
            .value out := by
          cases hformat : m.bundleFormat with
          | plain => simp [hformat] at haccepted
          | verity => simpa [hformat] using haccepted
          | crypt => simpa [hformat] using haccepted
        unfold verifyPayload at hverify
        split_ifs at hverify with hsize hdata
        have hsize' : bundle.size % 4096 = 0 := not_not.mp hsize
        have hdata' : bundle.dataSize m % 4096 = 0 := not_not.mp hdata
        refine ⟨hdata', hsize', ?_⟩
        cases hrun : rVerityHashVerify sha256 file (bundle.dataBlocks m) root salt with
        | ok _ => exact hrun
        | error e =>
          have hrun' :
            rVerityHashVerify sha256 file (bundle.dataBlocks { m with images := images }) root
            salt =
            .error e := hrun
          rw [hrun'] at hverify
          exact absurd hverify (by simp)

/-- The number of blocks of an accepted payload is what it looks like. -/
lemma dataSize_of_blocks {n : Nat} (hmod : bundle.dataSize m % 4096 = 0)
    (hn : bundle.dataBlocks m = n)
    (hsmall : n < 2 ^ 52) : bundle.dataSize m = 4096 * n := by
  unfold RaucBundle.dataBlocks at hn
  unfold RaucBundle.dataSize offsetDifference at hmod hn ⊢
  simp only at hmod hn ⊢
  split_ifs at hmod hn ⊢ <;> omega

/-- The sizes of two payloads of one manifest are the same if and only if the sizes of the bundles
are. -/
lemma size_eq_of_dataSize {bundle' : RaucBundle} (hsize : bundle.size < 2 ^ 63)
    (hsize' : bundle'.size < 2 ^ 63)
    (h : bundle.dataSize m = bundle'.dataSize m) : bundle.size = bundle'.size := by
  unfold RaucBundle.dataSize offsetDifference at h
  simp only at h
  have hverity := m.bundleVeritySize.toNat_lt
  split_ifs at h <;> omega

structure AcceptedFile (sha256 : List UInt8 → Digest) (m : RaucManifest) (file : List UInt8)
    (bundle : RaucBundle)
    (levels : List HashLevel) (stop : Nat) : Prop where
  verified : VerifiedFile sha256 (veritySalt m) file (bundle.dataBlocks m)
    (verityRoot m) levels stop
  dataSize : bundle.dataSize m = 4096 * bundle.dataBlocks m
  payload : bundle.payload m = readAt file 0 (4096 * bundle.dataBlocks m)
  aligned : bundle.size % 4096 = 0

lemma PayloadAccepted.accepted_file (h : PayloadAccepted sha256 m file bundle) :
    ∃ levels stop, AcceptedFile sha256 m file bundle levels stop := by
  obtain ⟨hmod, haligned, hverify⟩ := h.verified
  obtain ⟨levels, stop, hverified⟩ := rVerityHashVerify_inv hverify
  have hdata := dataSize_of_blocks hmod rfl hverified.small
  refine ⟨levels, stop, hverified, hdata, ?_, haligned⟩
  unfold RaucBundle.payload
  rw [h.stream, hdata, Option.getD_some, show ((4096 : Int) * (bundle.dataBlocks m : Nat)).toNat =
    4096 * bundle.dataBlocks m by omega]

end Accepted

/-- Two accepted files have the same payload if and only if they have the same size, unless two
blocks of them collide. If the hash tree of each file has the signed size and no digest is zero,
they do. -/
theorem payload_bound_iff (sha256 : List UInt8 → Digest) (m : RaucManifest)
    (file file' : List UInt8)
    (bundle bundle' : RaucBundle) (h : PayloadAccepted sha256 m file bundle)
    (h' : PayloadAccepted sha256 m file' bundle')
    (hapart : (verityTree sha256 (veritySalt m)).Apart (IsBlock file) (IsBlock file')) :
    (bundle.payload m = bundle'.payload m ↔ bundle.size = bundle'.size) ∧
    (bundle.HashTreeFits m → bundle'.HashTreeFits m →
      (verityTree sha256 (veritySalt m)).NoFill (IsBlock file) →
      (verityTree sha256 (veritySalt m)).NoFill (IsBlock file') → bundle.payload m =
        bundle'.payload m) := by
  obtain ⟨levels, stop, ha⟩ := h.accepted_file
  obtain ⟨levels', stop', ha'⟩ := h'.accepted_file
  refine ⟨⟨?_, ?_⟩, ?_⟩
  · intro hpayload
    rw [ha.payload, ha'.payload] at hpayload
    have hlen := congrArg List.length hpayload
    rw [ha.verified.readable, ha'.verified.readable] at hlen
    apply size_eq_of_dataSize h.size_lt h'.size_lt
    rw [ha.dataSize, ha'.dataSize]
    omega
  · intro hsize
    have hblocks : bundle.dataBlocks m = bundle'.dataBlocks m := by
      unfold RaucBundle.dataBlocks RaucBundle.dataSize
      rw [hsize]
    have hlayout := ha'.verified.layout
    rw [← hblocks, ha.verified.layout] at hlayout
    obtain ⟨rfl, -⟩ := Prod.mk.inj (Except.ok.inj hlayout)
    rw [ha.payload, ha'.payload]
    exact (ha.verified.determines ha'.verified hapart rfl (Or.inl hblocks)).2
  · rintro ⟨fitting, hfits⟩ ⟨fitting', hfits'⟩ hfill hfill'
    obtain ⟨rfl, rfl⟩ := Prod.mk.inj (Except.ok.inj (ha.verified.layout.symm.trans hfits))
    obtain ⟨rfl, rfl⟩ := Prod.mk.inj (Except.ok.inj (ha'.verified.layout.symm.trans hfits'))
    have hsame : bundle.size / 4096 + bundle'.dataBlocks m =
        bundle'.size / 4096 + bundle.dataBlocks m := by
      have hdata := ha.dataSize
      have hdata' := ha'.dataSize
      have haligned := ha.aligned
      have haligned' := ha'.aligned
      have hverity := m.bundleVeritySize.toNat_lt
      have hlt := h.size_lt
      have hlt' := h'.size_lt
      unfold RaucBundle.dataSize offsetDifference at hdata hdata'
      simp only at hdata hdata'
      split_ifs at hdata hdata' <;> omega
    have hle := length_levels_of_size ha.verified.pos ha.verified.small ha'.verified.pos
      ha'.verified.small hfits hfits' hsame
    have hge := length_levels_of_size ha'.verified.pos ha'.verified.small ha.verified.pos
      ha.verified.small hfits' hfits
      hsame.symm
    rw [ha.payload, ha'.payload]
    exact (ha.verified.determines ha'.verified hapart (by omega) (Or.inr ⟨hfill, hfill'⟩)).2

section Shortened

def sampleManifest : RaucManifest where
  bundleFormat := .verity
  bundleVerityHash := some "af4f607b5aebf247bac3c9ed03e28da073479d19d6da953db2d7e1a7166ed8c2"
  bundleVeritySalt := some "5a5a5a5a5a5a5a5a5a5a5a5a5a5a5a5a5a5a5a5a5a5a5a5a5a5a5a5a5a5a5a5a"
  bundleVeritySize := 4096

/-- Two blocks of data and the block with their digests. -/
def signedPayload : List UInt8 := filledBlock 0 ++ filledBlock 1 ++ sampleHashBlock

/-- The block with the digests, and as many bytes as the hash tree has. -/
def shortenedPayload : List UInt8 := sampleHashBlock ++ filledBlock 3

def localBundle (file : List UInt8) (size : Nat) : RaucBundle where
  path := "update.raucb"
  stream := some file
  size := size
  manifest := some sampleManifest
  signatureVerified := true
  exclusiveVerified := true

lemma veritySalt_sample : veritySalt sampleManifest = sampleSalt := by
  decide

lemma verityRoot_sample : verityRoot sampleManifest =
    (sampleSha256 (sampleSalt ++ sampleHashBlock)).bytes := by
  decide

lemma checkManifestExternal_sample : checkManifestExternal sampleManifest = .ok sampleManifest := by
  rfl

lemma length_sampleHashBlock : sampleHashBlock.length = 4096 := length_hashBlockOfTwo

lemma signedPayload_data : readAt signedPayload 0 8192 = filledBlock 0 ++ filledBlock 1 := by
  have hread := readAt_append_right [] (filledBlock 0 ++ filledBlock 1) sampleHashBlock
  rwa [List.length_append, length_filledBlock, length_filledBlock] at hread

lemma signedPayload_third : readAt signedPayload 8192 4096 = sampleHashBlock := by
  have hread := readAt_append_right (filledBlock 0 ++ filledBlock 1) sampleHashBlock []
  rwa [List.length_append, length_filledBlock, length_filledBlock, length_sampleHashBlock,
    List.append_nil] at hread

lemma shortenedPayload_first : readAt shortenedPayload 0 4096 = sampleHashBlock :=
  readAt_left length_sampleHashBlock (filledBlock 3)

lemma shortenedPayload_second : readAt shortenedPayload 4096 4096 = filledBlock 3 := by
  have hread := readAt_middle length_sampleHashBlock (length_filledBlock 3) []
  rwa [List.append_nil] at hread

lemma length_signedPayload : signedPayload.length = 12288 := by
  unfold signedPayload
  rw [List.length_append, List.length_append, length_filledBlock, length_filledBlock,
    length_sampleHashBlock]

lemma length_shortenedPayload : shortenedPayload.length = 8192 := by
  unfold shortenedPayload
  rw [List.length_append, length_filledBlock, length_sampleHashBlock]

lemma isBlock_shortenedPayload {block : List UInt8} (h : IsBlock shortenedPayload block) :
    block = sampleHashBlock ∨ block = filledBlock 3 := by
  obtain ⟨i, hi, rfl⟩ := h
  rw [length_shortenedPayload] at hi
  have hcases : i = 0 ∨ i = 1 := by omega
  rcases hcases with rfl | rfl
  · exact Or.inl shortenedPayload_first
  · exact Or.inr shortenedPayload_second

/-- No two different blocks of the two files have the same digest. -/
lemma apart_sample :
    (verityTree sampleSha256 (veritySalt sampleManifest)).Apart (IsBlock signedPayload)
    (IsBlock shortenedPayload) := by
  rw [veritySalt_sample]
  intro x y hx hy hsame
  change (sampleSha256 (sampleSalt ++ x)).bytes = (sampleSha256 (sampleSalt ++ y)).bytes at hsame
  rcases isBlock_of_three (length_filledBlock 0) (length_filledBlock 1) length_sampleHashBlock
    hx with rfl | rfl | rfl <;>
    rcases isBlock_shortenedPayload hy with rfl | rfl
  all_goals first
    | rfl
    | exact absurd hsame (by decide)

lemma verified_signedPayload :
    VerifiedFile sampleSha256 (veritySalt sampleManifest) signedPayload 2
      (verityRoot sampleManifest) [⟨2, 1⟩] 3 := by
  have hlevel : (verityTree sampleSha256 sampleSalt).parentLevel 2 (filledBlock 0 ++
      filledBlock 1) = sampleHashBlock := by
    have hfirst : (filledBlock 0 ++ filledBlock 1).take 4096 = filledBlock 0 :=
      List.take_left' (length_filledBlock 0)
    have hrest : (filledBlock 0 ++ filledBlock 1).drop 4096 = filledBlock 1 :=
      List.drop_left' (length_filledBlock 0)
    have hlast : (filledBlock 1).take 4096 = filledBlock 1 :=
      List.take_of_length_le (by rw [length_filledBlock])
    rw [parentLevel_small (by omega) (by omega), digests, digests, digests, verityTree_blockSize,
      hfirst, hrest, hlast,
      List.append_nil]
    rfl
  rw [veritySalt_sample, verityRoot_sample]
  refine ⟨by omega, by decide, by decide, ?_, ⟨⟨?_, ?_⟩, trivial⟩, ?_, ?_⟩
  · rw [signedPayload_data, List.length_append, length_filledBlock, length_filledBlock]
  · rw [Nat.zero_mul, signedPayload_data, List.length_append, length_filledBlock,
      length_filledBlock]
  · rw [Nat.zero_mul, signedPayload_data, hlevel]
    exact signedPayload_third
  · rw [length_signedPayload]
    decide
  · change _ = (verityTree sampleSha256 sampleSalt).hash (readAt signedPayload 8192 4096)
    rw [signedPayload_third]
    rfl

lemma verified_shortenedPayload :
    VerifiedFile sampleSha256 (veritySalt sampleManifest) shortenedPayload 1
      (verityRoot sampleManifest) [] 1 := by
  rw [veritySalt_sample, verityRoot_sample]
  refine ⟨by omega, by decide, by decide, ?_, trivial, ?_, ?_⟩
  · rw [shortenedPayload_first, length_sampleHashBlock]
  · rw [length_shortenedPayload]
    decide
  · change _ = (verityTree sampleSha256 sampleSalt).hash (readAt shortenedPayload 0 4096)
    rw [shortenedPayload_first]
    rfl

lemma payloadAccepted_sample {file : List UInt8} {size : Nat} (hlt : size < 2 ^ 63)
    (haligned : (localBundle file size).size % 4096 = 0)
    (hdata : (localBundle file size).dataSize sampleManifest % 4096 = 0)
    (hverify : rVerityHashVerify sampleSha256 file
      ((localBundle file size).dataBlocks sampleManifest)
      (verityRoot sampleManifest) (veritySalt sampleManifest) = .ok ()) :
    PayloadAccepted sampleSha256 sampleManifest file (localBundle file size) := by
  have hroot : sampleManifest.bundleVerityHash.bind (fun hex => rHexDecode hex 32) =
      some (verityRoot sampleManifest) := by
    decide
  have hsalt : sampleManifest.bundleVeritySalt.bind (fun hex => rHexDecode hex 32) =
      some (veritySalt sampleManifest) := by
    decide
  refine ⟨rfl, rfl, rfl, rfl, hlt,
    { localBundle file size with manifest := some sampleManifest, payloadVerified := true }, ?_⟩
  unfold checkBundlePayload
  rw [if_neg (by simp [localBundle]), show (localBundle file size).stream = some file from rfl,
    show (localBundle file size).manifest = some sampleManifest from rfl]
  simp only [checkManifestExternal_sample, show sampleManifest.bundleFormat = .verity from rfl,
    hroot, hsalt]
  rw [if_neg (by simp [localBundle])]
  unfold verifyPayload
  rw [if_neg (not_not.mpr haligned), if_neg (not_not.mpr hdata), hverify]

lemma payloadAccepted_signed :
    PayloadAccepted sampleSha256 sampleManifest signedPayload
      (localBundle signedPayload 12288) := by
  have hblocks : (localBundle signedPayload 12288).dataBlocks sampleManifest = 2 := by decide
  apply payloadAccepted_sample (by simp) (by decide) (by decide)
  rw [hblocks]
  apply rVerityHashVerify_ok verified_signedPayload (by simp) _ (by simp [topBlock])
  intro level hlevel
  rw [List.mem_singleton.mp hlevel]
  simp

lemma payloadAccepted_shortened :
    PayloadAccepted sampleSha256 sampleManifest shortenedPayload
      (localBundle shortenedPayload 8192) := by
  have hblocks : (localBundle shortenedPayload 8192).dataBlocks sampleManifest = 1 := by decide
  apply payloadAccepted_sample (by simp) (by decide) (by decide)
  rw [hblocks]
  exact rVerityHashVerify_ok verified_shortenedPayload (by simp) (by simp) (by simp [topBlock])

theorem payload_bound_shortened :
    PayloadAccepted sampleSha256 sampleManifest signedPayload (localBundle signedPayload 12288) ∧
    PayloadAccepted sampleSha256 sampleManifest shortenedPayload
      (localBundle shortenedPayload 8192) ∧
    ((localBundle signedPayload 12288).payload sampleManifest =
      (localBundle shortenedPayload 8192).payload sampleManifest ↔ 12288 = 8192) :=
  ⟨payloadAccepted_signed, payloadAccepted_shortened,
    (payload_bound_iff sampleSha256 sampleManifest signedPayload shortenedPayload _ _
      payloadAccepted_signed
      payloadAccepted_shortened apart_sample).1⟩

/-- Without its data, the hash block of a bundle is accepted as the payload of that bundle. -/
theorem hash_block_as_payload :
    PayloadAccepted sampleSha256 sampleManifest signedPayload (localBundle signedPayload 12288) ∧
    PayloadAccepted sampleSha256 sampleManifest shortenedPayload
      (localBundle shortenedPayload 8192) ∧
    (verityTree sampleSha256 (veritySalt sampleManifest)).Apart (IsBlock signedPayload)
    (IsBlock shortenedPayload) ∧
    (localBundle signedPayload 12288).payload sampleManifest = filledBlock 0 ++ filledBlock 1 ∧
    (localBundle shortenedPayload 8192).payload sampleManifest = sampleHashBlock ∧
    ((localBundle signedPayload 12288).payload sampleManifest).length ≠
      ((localBundle shortenedPayload 8192).payload sampleManifest).length := by
  have hsigned : (localBundle signedPayload 12288).payload sampleManifest =
      filledBlock 0 ++ filledBlock 1 := by
    have hsize : ((localBundle signedPayload 12288).dataSize sampleManifest).toNat =
      8192 := by decide
    unfold RaucBundle.payload
    rw [hsize]
    exact signedPayload_data
  have hshortened : (localBundle shortenedPayload 8192).payload sampleManifest =
      sampleHashBlock := by
    have hsize : ((localBundle shortenedPayload 8192).dataSize sampleManifest).toNat =
      4096 := by decide
    unfold RaucBundle.payload
    rw [hsize]
    exact shortenedPayload_first
  refine ⟨payloadAccepted_signed, payloadAccepted_shortened, apart_sample, hsigned, hshortened, ?_⟩
  rw [hsigned, hshortened, List.length_append, length_filledBlock, length_filledBlock,
    length_sampleHashBlock]
  omega

end Shortened

end RaucUpdate
