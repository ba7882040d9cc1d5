import RaucUpdate.Model.VerityHash
import RaucUpdate.Library.HashTree

/-!
# The hash tree that is created is the one that is verified

`verityTree` is the tree of block hashes for a salt. Creation writes the levels of the tree over the
data into the file, and verification accepts a file whose levels and root are those of the tree. So
verification after creation succeeds, and any other content of the data or the hash area is rejected
unless two blocks collide.
-/

namespace RaucUpdate

open Library BlockHash

variable (sha256 : List UInt8 → Digest) (salt : List UInt8)

def verityTree : BlockHash UInt8 where
  hash := fun block => (sha256 (salt ++ block)).bytes
  width := 32
  fan := 128
  fill := 0
  hash_length := fun block => (sha256 (salt ++ block)).size
  width_pos := by decide
  fan_pos := by decide

variable {sha256 salt}

lemma verityTree_blockSize : (verityTree sha256 salt).blockSize = 4096 := by
  unfold blockSize
  change 128 * 32 = 4096
  omega

lemma verityTree_width : (verityTree sha256 salt).width = 32 := rfl

lemma verityTree_parents (count : Nat) : (verityTree sha256 salt).parents count =
    (count + 127) / 128 := by
  unfold parents
  change (count + 128 - 1) / 128 = _
  omega

section Entries

variable {file : List UInt8} {rd wr : Nat} {digest : Digest}

lemma hashEntries_verify_step (i blocks left : Nat) :
    hashEntries sha256 salt true true (i + 1) (blocks + 1) left ⟨file, rd, wr, digest⟩ =
      if rd + 4096 ≤ file.length then
        if wr + 32 ≤ file.length then
          if readAt file wr 32 = (verityTree sha256 salt).hash (readAt file rd 4096) then
            hashEntries sha256 salt true true i blocks (left - 32)
              ⟨file, rd + 4096, wr + 32, sha256 (salt ++ readAt file rd 4096)⟩
          else .error .verificationFailed
        else .error .cannotReadDigest
      else .error .cannotReadData := by
  rw [hashEntries]
  unfold fread dataBlockSize
  by_cases hdata : rd + 4096 ≤ file.length
  · rw [if_pos hdata, if_pos hdata]
    change Except.bind (hashEntry true _) _ = _
    unfold hashEntry fread digestSize
    by_cases hdigest : wr + 32 ≤ file.length
    · simp only [if_pos hdigest]
      by_cases hsame : readAt file wr 32 = (verityTree sha256 salt).hash (readAt file rd 4096)
      · have hsame' :
          readAt file wr 32 = (verifyHashBlock sha256 salt (readAt file rd 4096)).bytes := hsame
        rw [if_pos hsame]
        change Except.bind (if readAt file wr 32 =
          (verifyHashBlock sha256 salt (readAt file rd 4096)).bytes then _ else _) _ = _
        rw [if_pos hsame']
        rfl
      · have hsame' :
          ¬readAt file wr 32 = (verifyHashBlock sha256 salt (readAt file rd 4096)).bytes := hsame
        rw [if_neg hsame]
        change Except.bind (if readAt file wr 32 =
          (verifyHashBlock sha256 salt (readAt file rd 4096)).bytes then _ else _) _ = _
        rw [if_neg hsame']
        rfl
    · simp only [if_neg hdigest]
      rfl
  · rw [if_neg hdata, if_neg hdata]
    rfl

lemma hashEntries_create_step (i blocks left : Nat) :
    hashEntries sha256 salt false true (i + 1) (blocks + 1) left ⟨file, rd, wr, digest⟩ =
      if rd + 4096 ≤ file.length then
        hashEntries sha256 salt false true i blocks (left - 32)
          ⟨overwrite 0 file wr ((verityTree sha256 salt).hash (readAt file rd 4096)),
            rd + 4096, wr + 32,
            sha256 (salt ++ readAt file rd 4096)⟩
      else .error .cannotReadData := by
  rw [hashEntries]
  unfold fread dataBlockSize
  by_cases hdata : rd + 4096 ≤ file.length
  · rw [if_pos hdata, if_pos hdata]
    rfl
  · rw [if_neg hdata, if_neg hdata]
    rfl

lemma digests_readAt_succ (file : List UInt8) (rd count : Nat) :
    (verityTree sha256 salt).digests (count + 1) (readAt file rd (4096 * (count + 1))) =
      (verityTree sha256 salt).hash (readAt file rd 4096) ++
        (verityTree sha256 salt).digests count (readAt file (rd + 4096) (4096 * count)) := by
  rw [digests, verityTree_blockSize, show 4096 * (count + 1) =
    4096 + 4096 * count by omega, take_readAt, drop_readAt]

/-- What verification of the entries of a hash block has found. -/
def EntriesHashed (sha256 : List UInt8 → Digest) (salt file : List UInt8) (rd wr count : Nat) :
    Prop :=
  (readAt file rd (4096 * count)).length = 4096 * count ∧
    readAt file wr (32 * count) = (verityTree sha256 salt).digests count
      (readAt file rd (4096 * count))

lemma entriesHashed_zero : EntriesHashed sha256 salt file rd wr 0 := by
  refine ⟨?_, ?_⟩
  · rw [Nat.mul_zero, readAt_zero]
    rfl
  · rw [Nat.mul_zero, readAt_zero]
    rfl

lemma entriesHashed_succ {count : Nat} :
    EntriesHashed sha256 salt file rd wr (count + 1) ↔
      rd + 4096 ≤ file.length ∧ wr + 32 ≤ file.length ∧
        readAt file wr 32 = (verityTree sha256 salt).hash (readAt file rd 4096) ∧
        EntriesHashed sha256 salt file (rd + 4096) (wr + 32) count := by
  unfold EntriesHashed
  rw [digests_readAt_succ, length_readAt, length_readAt, show 32 * (count + 1) =
    32 + 32 * count by omega, readAt_add]
  have hwidth := (verityTree sha256 salt).hash_length (readAt file rd 4096)
  rw [verityTree_width] at hwidth
  constructor
  · rintro ⟨hlen, hbytes⟩
    have hwr : wr + 32 ≤ file.length := by
      have hlong := congrArg List.length hbytes
      rw [List.length_append, List.length_append, length_readAt, length_readAt, hwidth,
        length_digests,
        verityTree_width] at hlong
      omega
    obtain ⟨hfirst, hrest⟩ := List.append_inj hbytes (by rw [length_readAt_of_le hwr, hwidth])
    exact ⟨by omega, hwr, hfirst, by omega, hrest⟩
  · rintro ⟨hrd, hwr, hfirst, hlen, hrest⟩
    exact ⟨by omega, by rw [hfirst, hrest]⟩

lemma hashEntries_verify_inv {out : Nat × Nat × HashRun} (slots blocks left count : Nat)
    (hcount : min slots blocks = count)
    (h : hashEntries sha256 salt true true slots blocks left ⟨file, rd, wr, digest⟩ = .ok out) :
    EntriesHashed sha256 salt file rd wr count ∧
      ∃ d, out = (blocks - count, left - 32 * count,
        ⟨file, rd + 4096 * count, wr + 32 * count, d⟩) := by
  induction count generalizing slots blocks left rd wr digest with
  | zero =>
    refine ⟨entriesHashed_zero, digest, ?_⟩
    cases slots with
    | zero => exact (Except.ok.inj h).symm
    | succ i =>
      cases blocks with
      | zero => exact (Except.ok.inj h).symm
      | succ blocks => omega
  | succ count ih =>
    cases slots with
    | zero => omega
    | succ i =>
      cases blocks with
      | zero => omega
      | succ blocks =>
        rw [hashEntries_verify_step] at h
        split_ifs at h with hrd hwr hsame
        obtain ⟨hrest, d, hout⟩ := ih i blocks (left - 32) (by omega) h
        refine ⟨entriesHashed_succ.mpr ⟨hrd, hwr, hsame, hrest⟩, d, ?_⟩
        rw [hout, show blocks + 1 - (count + 1) = blocks - count by omega,
          show left - 32 * (count + 1) = left - 32 - 32 * count by omega,
          show rd + 4096 * (count + 1) = rd + 4096 + 4096 * count by omega,
          show wr + 32 * (count + 1) = wr + 32 + 32 * count by omega]

lemma hashEntries_verify_ok (slots blocks left count : Nat) (hcount : min slots blocks = count)
    (h : EntriesHashed sha256 salt file rd wr count) :
    ∃ d, hashEntries sha256 salt true true slots blocks left ⟨file, rd, wr, digest⟩ =
      .ok (blocks - count, left - 32 * count, ⟨file, rd + 4096 * count, wr + 32 * count, d⟩) := by
  induction count generalizing slots blocks left rd wr digest with
  | zero =>
    refine ⟨digest, ?_⟩
    cases slots with
    | zero => rfl
    | succ i =>
      cases blocks with
      | zero => rfl
      | succ blocks => omega
  | succ count ih =>
    cases slots with
    | zero => omega
    | succ i =>
      cases blocks with
      | zero => omega
      | succ blocks =>
        obtain ⟨hrd, hwr, hsame, hrest⟩ := entriesHashed_succ.mp h
        obtain ⟨d, hrun⟩ := @ih (rd + 4096) (wr + 32) (sha256 (salt ++ readAt file rd 4096)) i
          blocks (left - 32) (by omega)
          hrest
        refine ⟨d, ?_⟩
        rw [hashEntries_verify_step, if_pos hrd, if_pos hwr, if_pos hsame, hrun,
          show blocks + 1 - (count + 1) = blocks - count by omega,
          show left - 32 * (count + 1) = left - 32 - 32 * count by omega,
          show rd + 4096 * (count + 1) = rd + 4096 + 4096 * count by omega,
          show wr + 32 * (count + 1) = wr + 32 + 32 * count by omega]

/-- Creation writes the digests, as long as it does not write where it still has to read. -/
lemma hashEntries_create (slots blocks left count : Nat) (hcount : min slots blocks = count)
    (hread : (readAt file rd (4096 * count)).length = 4096 * count)
    (hapart : rd + 4096 * count ≤ wr ∨ wr + 32 * count ≤ rd) :
    ∃ d, hashEntries sha256 salt false true slots blocks left ⟨file, rd, wr, digest⟩ =
      .ok (blocks - count, left - 32 * count,
        ⟨overwrite 0 file wr ((verityTree sha256 salt).digests count
          (readAt file rd (4096 * count))),
          rd + 4096 * count, wr + 32 * count, d⟩) := by
  induction count generalizing slots blocks left file rd wr digest with
  | zero =>
    refine ⟨digest, ?_⟩
    cases slots with
    | zero => rfl
    | succ i =>
      cases blocks with
      | zero => rfl
      | succ blocks => omega
  | succ count ih =>
    cases slots with
    | zero => omega
    | succ i =>
      cases blocks with
      | zero => omega
      | succ blocks =>
        have hrd : rd + 4096 ≤ file.length := by
          rw [length_readAt] at hread
          omega
        have hwidth := (verityTree sha256 salt).hash_length (readAt file rd 4096)
        rw [verityTree_width] at hwidth
        have hrest : (readAt file (rd + 4096) (4096 * count)).length = 4096 * count := by
          rw [length_readAt] at hread ⊢
          omega
        have hkept :=
          @readAt_overwrite_apart _ 0 file ((verityTree sha256 salt).hash (readAt file rd 4096)) wr
          (rd + 4096) (4096 * count) hrest (by rw [hwidth]; omega)
        obtain ⟨d, hrun⟩ :=
          @ih (overwrite 0 file wr ((verityTree sha256 salt).hash (readAt file rd 4096)))
          (rd + 4096)
          (wr + 32) (sha256 (salt ++ readAt file rd 4096)) i blocks (left - 32) (by omega)
            (by rw [hkept, hrest])
          (by omega)
        have hfile :=
          overwrite_append (0 : UInt8) file wr ((verityTree sha256 salt).hash (readAt file rd 4096))
          ((verityTree sha256 salt).digests count (readAt file (rd + 4096) (4096 * count)))
        rw [hwidth, ← digests_readAt_succ] at hfile
        refine ⟨d, ?_⟩
        rw [hashEntries_create_step, if_pos hrd, hrun, hkept, hfile,
          show blocks + 1 - (count + 1) = blocks - count by omega,
          show left - 32 * (count + 1) = left - 32 - 32 * count by omega,
          show rd + 4096 * (count + 1) = rd + 4096 + 4096 * count by omega,
          show wr + 32 * (count + 1) = wr + 32 + 32 * count by omega]

end Entries

section Blocks

variable {file : List UInt8} {rd wr : Nat} {digest : Digest}

lemma parentLevel_small {count : Nat} (hpos : 0 < count) (h : count ≤ 128) (bytes : List UInt8) :
    (verityTree sha256 salt).parentLevel count bytes =
      (verityTree sha256 salt).digests count bytes ++ List.replicate (4096 - 32 * count) 0 := by
  unfold parentLevel
  rw [verityTree_blockSize, verityTree_width, verityTree_parents, show (count + 127) / 128 =
    1 by omega]
  rfl

lemma parentLevel_add (count : Nat) (bytes : List UInt8) :
    (verityTree sha256 salt).parentLevel (128 + count) bytes =
      (verityTree sha256 salt).digests 128 bytes ++
        (verityTree sha256 salt).parentLevel count (bytes.drop (4096 * 128)) := by
  unfold parentLevel
  rw [digests_add, verityTree_blockSize, verityTree_width, verityTree_parents, verityTree_parents,
    List.append_assoc,
    show 4096 * ((128 + count + 127) / 128) - 32 * (128 + count) =
      4096 * ((count + 127) / 128) - 32 * count by omega]

/-- The digests of the blocks stand at the position and fill whole blocks there. -/
def LevelHashed (sha256 : List UInt8 → Digest) (salt file : List UInt8) (rd wr count : Nat) :
    Prop :=
  (readAt file rd (4096 * count)).length = 4096 * count ∧
    readAt file wr (4096 * (verityTree sha256 salt).parents count) =
      (verityTree sha256 salt).parentLevel count (readAt file rd (4096 * count))

lemma levelHashed_zero : LevelHashed sha256 salt file rd wr 0 := by
  refine ⟨?_, ?_⟩
  · rw [Nat.mul_zero, readAt_zero]
    rfl
  · rw [verityTree_parents, show 4096 * ((0 + 127) / 128) =
      0 by omega, readAt_zero, parentLevel_zero]

lemma levelHashed_small {count : Nat} (hpos : 0 < count) (h : count ≤ 128) :
    LevelHashed sha256 salt file rd wr count ↔ EntriesHashed sha256 salt file rd wr count ∧
      readAt file (wr + 32 * count) (4096 - 32 * count) = List.replicate (4096 - 32 * count) 0 := by
  unfold LevelHashed EntriesHashed
  rw [verityTree_parents, show 4096 * ((count + 127) / 128) =
    32 * count + (4096 - 32 * count) by omega, readAt_add,
    parentLevel_small hpos h]
  constructor
  · rintro ⟨hread, hbytes⟩
    have hlong := congrArg List.length hbytes
    rw [List.length_append, List.length_append, length_readAt, length_readAt, length_digests,
      verityTree_width,
      List.length_replicate] at hlong
    obtain ⟨hfirst, hrest⟩ :=
      List.append_inj hbytes (by rw [length_readAt, length_digests, verityTree_width]; omega)
    exact ⟨⟨hread, hfirst⟩, hrest⟩
  · rintro ⟨⟨hread, hfirst⟩, hrest⟩
    exact ⟨hread, by rw [hfirst, hrest]⟩

lemma levelHashed_add {count : Nat} :
    LevelHashed sha256 salt file rd wr (128 + count) ↔ EntriesHashed sha256 salt file rd wr 128 ∧
      LevelHashed sha256 salt file (rd + 4096 * 128) (wr + 4096) count := by
  unfold LevelHashed EntriesHashed
  have hread : readAt file rd (4096 * (128 + count)) =
      readAt file rd (4096 * 128) ++ readAt file (rd + 4096 * 128) (4096 * count) := by
    rw [Nat.mul_add, readAt_add]
  rw [parentLevel_add, verityTree_parents, verityTree_parents,
    show 4096 * ((128 + count + 127) / 128) = 4096 + 4096 * ((count + 127) / 128) by
      omega, readAt_add file wr,
    show 32 * 128 = 4096 by omega]
  have hdrop : (readAt file rd (4096 * (128 + count))).drop (4096 * 128) =
      readAt file (rd + 4096 * 128) (4096 * count) := by
    rw [Nat.mul_add, drop_readAt]
  rw [hdrop, hread, List.length_append, length_readAt, length_readAt]
  constructor
  · rintro ⟨hlen, hbytes⟩
    have hfull : (readAt file rd (4096 * 128)).length = 4096 * 128 := by
      rw [length_readAt]
      omega
    rw [digests_take 128 _ _ (by rw [hfull, verityTree_blockSize])] at hbytes
    have hlong := congrArg List.length hbytes
    rw [List.length_append, List.length_append, length_readAt, length_readAt, length_digests,
      verityTree_width,
      length_parentLevel, verityTree_blockSize, verityTree_parents] at hlong
    obtain ⟨hfirst, hrest⟩ :=
      List.append_inj hbytes (by rw [length_readAt, length_digests, verityTree_width]; omega)
    exact ⟨⟨by omega, hfirst⟩, by omega, hrest⟩
  · rintro ⟨⟨hlen, hfirst⟩, hlen', hrest⟩
    have hfull : (readAt file rd (4096 * 128)).length = 4096 * 128 := by
      rw [length_readAt]
      omega
    rw [digests_take 128 _ _ (by rw [hfull, verityTree_blockSize])]
    exact ⟨by omega, by rw [hfirst, hrest]⟩

lemma all_zero_iff {block : List UInt8} {size : Nat} (h : block.length = size) :
    block.all (fun b => b = 0) = true ↔ block = List.replicate size 0 := by
  rw [List.all_eq_true]
  constructor
  · intro hzero
    rw [List.eq_replicate_iff]
    exact ⟨h, fun b hb => of_decide_eq_true (hzero b hb)⟩
  · rintro rfl b hb
    rw [List.eq_of_mem_replicate hb]
    rfl

lemma spareArea_verify_iff {size : Nat} {run out : HashRun} (hsize : 0 < size) :
    spareArea true size run = .ok out ↔
      readAt run.file run.wr size = List.replicate size 0 ∧
        out = { run with wr := run.wr + size } := by
  unfold spareArea fread
  rw [if_pos rfl]
  by_cases hlen : run.wr + size ≤ run.file.length
  · rw [if_pos hlen]
    change (if (readAt run.file run.wr size).all (fun b => b = 0) then _ else _) = _ ↔ _
    by_cases hzero : (readAt run.file run.wr size).all (fun b => decide (b = 0)) = true
    · rw [if_pos hzero]
      have hbytes := (all_zero_iff (length_readAt_of_le hlen)).mp hzero
      constructor
      · intro h
        exact ⟨hbytes, (Except.ok.inj h).symm⟩
      · rintro ⟨-, rfl⟩
        rfl
    · rw [if_neg hzero]
      constructor
      · intro h
        exact absurd h (by simp)
      · rintro ⟨hbytes, -⟩
        exact absurd ((all_zero_iff (length_readAt_of_le hlen)).mpr hbytes) hzero
  · rw [if_neg hlen]
    constructor
    · intro h
      exact absurd h (by simp [bind, Except.bind])
    · rintro ⟨hbytes, -⟩
      have hlong := congrArg List.length hbytes
      rw [length_readAt, List.length_replicate] at hlong
      omega

/-- One hash block that is full goes on with the rest of the blocks. -/
lemma hashBlocks_full {verify : Bool} {entered : HashRun} (blocksToWrite count : Nat)
    {run : HashRun}
    (h : hashEntries sha256 salt verify true 128 (128 + count) 4096 run = .ok (count, 0, entered)) :
    hashBlocks sha256 salt verify true (blocksToWrite + 1) (128 + count) run =
      hashBlocks sha256 salt verify true blocksToWrite count entered := by
  rw [hashBlocks]
  change Except.bind (hashEntries sha256 salt verify true 128 (128 + count) 4096 run) _ = _
  rw [h]
  rfl

/-- The last hash block is filled up. -/
lemma hashBlocks_last {verify : Bool} {entered : HashRun} {count left : Nat} {run : HashRun}
    (hleft : 0 < left)
    (h : hashEntries sha256 salt verify true 128 count 4096 run = .ok (0, left, entered)) :
    hashBlocks sha256 salt verify true 1 count run = spareArea verify left entered := by
  rw [hashBlocks]
  change Except.bind (hashEntries sha256 salt verify true 128 count 4096 run) _ = _
  rw [h]
  have hne : left ≠ 0 := by omega
  change (if true = true ∧ left ≠ 0 then Except.bind (spareArea verify left entered) _ else _) = _
  rw [if_pos ⟨rfl, hne⟩]
  cases spareArea verify left entered with
  | error e => rfl
  | ok out => rfl

lemma hashBlocks_verify_inv {out : HashRun} (blocksToWrite count : Nat)
    (hcount : (verityTree sha256 salt).parents count = blocksToWrite)
    (h : hashBlocks sha256 salt true true blocksToWrite count ⟨file, rd, wr, digest⟩ = .ok out) :
    LevelHashed sha256 salt file rd wr count ∧ out.file = file := by
  rw [verityTree_parents] at hcount
  induction blocksToWrite generalizing count rd wr digest with
  | zero =>
    obtain rfl : count = 0 := by omega
    rw [← Except.ok.inj h]
    exact ⟨levelHashed_zero, rfl⟩
  | succ blocksToWrite ih =>
    cases hentries : hashEntries sha256 salt true true 128 count 4096 ⟨file, rd, wr, digest⟩ with
    | error e =>
      have hfail : hashBlocks sha256 salt true true (blocksToWrite + 1) count ⟨file, rd, wr,
          digest⟩ = .error e := by
        rw [hashBlocks]
        change Except.bind (hashEntries sha256 salt true true 128 count 4096 ⟨file, rd, wr,
          digest⟩) _ = _
        rw [hentries]
        rfl
      rw [hfail] at h
      exact absurd h (by simp)
    | ok entered =>
      by_cases hfull : 128 ≤ count
      · obtain ⟨rest, rfl⟩ := Nat.exists_eq_add_of_le hfull
        obtain ⟨hhashed, d, rfl⟩ :=
          hashEntries_verify_inv 128 (128 + rest) 4096 128 (by omega) hentries
        rw [show 128 + rest - 128 = rest by omega, show 4096 - 32 * 128 = 0 by omega] at hentries
        rw [hashBlocks_full blocksToWrite rest hentries] at h
        obtain ⟨hrest, hfile⟩ := ih rest (by omega) h
        exact ⟨levelHashed_add.mpr ⟨hhashed, hrest⟩, hfile⟩
      · obtain rfl : blocksToWrite = 0 := by omega
        obtain ⟨hhashed, d, rfl⟩ := hashEntries_verify_inv 128 count 4096 count (by omega) hentries
        rw [Nat.sub_self] at hentries
        rw [hashBlocks_last (by omega) hentries, spareArea_verify_iff (by omega)] at h
        obtain ⟨hzero, rfl⟩ := h
        exact ⟨(levelHashed_small (by omega) (by omega)).mpr ⟨hhashed, hzero⟩, rfl⟩

lemma hashBlocks_verify_ok (blocksToWrite count : Nat)
    (hcount : (verityTree sha256 salt).parents count = blocksToWrite)
    (h : LevelHashed sha256 salt file rd wr count) :
    ∃ out, hashBlocks sha256 salt true true blocksToWrite count ⟨file, rd, wr, digest⟩ = .ok out ∧
      out.file = file := by
  rw [verityTree_parents] at hcount
  induction blocksToWrite generalizing count rd wr digest with
  | zero => exact ⟨_, rfl, rfl⟩
  | succ blocksToWrite ih =>
    by_cases hfull : 128 ≤ count
    · obtain ⟨rest, rfl⟩ := Nat.exists_eq_add_of_le hfull
      obtain ⟨hhashed, hrest⟩ := levelHashed_add.mp h
      obtain ⟨d, hentries⟩ := @hashEntries_verify_ok _ _ _ _ _ digest 128 (128 + rest) 4096 128
        (by omega) hhashed
      rw [show 128 + rest - 128 = rest by omega, show 4096 - 32 * 128 = 0 by omega] at hentries
      rw [hashBlocks_full blocksToWrite rest hentries]
      exact ih rest (by omega) hrest
    · obtain rfl : blocksToWrite = 0 := by omega
      obtain ⟨hhashed, hzero⟩ := (levelHashed_small (by omega) (by omega)).mp h
      obtain ⟨d, hentries⟩ := @hashEntries_verify_ok _ _ _ _ _ digest 128 count 4096 count
        (by omega) hhashed
      rw [Nat.sub_self] at hentries
      rw [hashBlocks_last (by omega) hentries]
      exact ⟨_, (spareArea_verify_iff (by omega)).mpr ⟨hzero, rfl⟩, rfl⟩

/-- Creation writes the level above, as long as it does not write where it still has to read. -/
lemma hashBlocks_create (blocksToWrite count : Nat)
    (hcount : (verityTree sha256 salt).parents count = blocksToWrite)
    (hread : (readAt file rd (4096 * count)).length = 4096 * count)
    (hapart : rd + 4096 * count ≤ wr ∨ wr + 4096 * blocksToWrite ≤ rd) :
    ∃ out, hashBlocks sha256 salt false true blocksToWrite count ⟨file, rd, wr, digest⟩ = .ok out ∧
      out.file = overwrite 0 file wr
        ((verityTree sha256 salt).parentLevel count (readAt file rd (4096 * count))) := by
  rw [verityTree_parents] at hcount
  induction blocksToWrite generalizing count file rd wr digest with
  | zero =>
    obtain rfl : count = 0 := by omega
    exact ⟨_, rfl, by rw [parentLevel_zero]; rfl⟩
  | succ blocksToWrite ih =>
    by_cases hfull : 128 ≤ count
    · obtain ⟨rest, rfl⟩ := Nat.exists_eq_add_of_le hfull
      have hsplit : readAt file rd (4096 * (128 + rest)) =
          readAt file rd (4096 * 128) ++ readAt file (rd + 4096 * 128) (4096 * rest) := by
        rw [Nat.mul_add, readAt_add]
      have hfirst : (readAt file rd (4096 * 128)).length = 4096 * 128 := by
        rw [length_readAt] at hread ⊢
        omega
      have hrest : (readAt file (rd + 4096 * 128) (4096 * rest)).length = 4096 * rest := by
        rw [length_readAt] at hread ⊢
        omega
      obtain ⟨d, hentries⟩ := @hashEntries_create sha256 salt _ _ wr digest 128 (128 + rest) 4096
        128 (by omega) hfirst
        (by omega)
      rw [show 128 + rest - 128 = rest by omega, show 4096 - 32 * 128 = 0 by omega] at hentries
      have hdigests := @length_digests _ (verityTree sha256 salt) 128 (readAt file rd (4096 * 128))
      rw [verityTree_width] at hdigests
      have hkept :=
        @readAt_overwrite_apart _ 0 file ((verityTree sha256 salt).digests 128
        (readAt file rd (4096 * 128)))
        wr (rd + 4096 * 128) (4096 * rest) hrest (by rw [hdigests]; omega)
      obtain ⟨out, hout, hfile⟩ := @ih (overwrite 0 file wr ((verityTree sha256 salt).digests 128
        (readAt file rd (4096 * 128)))) (rd + 4096 * 128) (wr + 32 * 128) d rest (by omega)
          (by rw [hkept, hrest])
        (by omega)
      refine ⟨out, ?_, ?_⟩
      · rw [hashBlocks_full blocksToWrite rest hentries]
        exact hout
      · have happend := overwrite_append (0 : UInt8) file wr
          ((verityTree sha256 salt).digests 128 (readAt file rd (4096 * 128)))
          ((verityTree sha256 salt).parentLevel rest (readAt file (rd + 4096 * 128) (4096 * rest)))
        have hdrop : (readAt file rd (4096 * (128 + rest))).drop (4096 * 128) =
            readAt file (rd + 4096 * 128) (4096 * rest) := by
          rw [Nat.mul_add, drop_readAt]
        rw [hdigests] at happend
        rw [hfile, hkept, happend, parentLevel_add, hdrop, hsplit,
          digests_take 128 _ _ (by rw [hfirst, verityTree_blockSize])]
    · obtain rfl : blocksToWrite = 0 := by omega
      obtain ⟨d, hentries⟩ := @hashEntries_create sha256 salt _ _ wr digest 128 count 4096 count
        (by omega) hread
        (by omega)
      rw [Nat.sub_self] at hentries
      refine ⟨_, hashBlocks_last (by omega) hentries, ?_⟩
      have happend := overwrite_append (0 : UInt8) file wr
        ((verityTree sha256 salt).digests count (readAt file rd (4096 * count)))
          (List.replicate (4096 - 32 * count) 0)
      rw [length_digests, verityTree_width] at happend
      change overwrite 0 (overwrite 0 file wr _) (wr + 32 * count)
        (List.replicate (4096 - 32 * count) 0) = _
      rw [happend, parentLevel_small (by omega) (by omega)]

end Blocks

section OneLevel

variable {file : List UInt8} {digest : Digest} {verify : Bool}

lemma uint64MultOverflow_iff (b : Nat) : uint64MultOverflow b 4096 = true ↔ 2 ^ 64 ≤ b * 4096 := by
  unfold uint64MultOverflow
  rw [decide_eq_true_iff]
  omega

lemma createOrVerify_fits {hasHashFile : Bool} {dataBlock hashBlock blocks : Nat}
    (hdata : dataBlock * 4096 < 2 ^ 63)
    (hhash : hashBlock * 4096 < 2 ^ 63) (hblocks : blocks < 2 ^ 63) :
    createOrVerify sha256 salt verify hasHashFile file digest dataBlock hashBlock blocks =
      hashBlocks sha256 salt verify hasHashFile ((verityTree sha256 salt).parents blocks) blocks
        ⟨file, dataBlock * 4096, hashBlock * 4096, digest⟩ := by
  unfold createOrVerify dataBlockSize hashBlockSize fseeko
  rw [if_neg (by rw [uint64MultOverflow_iff, uint64MultOverflow_iff]; omega), if_pos hdata,
    if_pos hhash,
    verityTree_parents]
  have hcount : (blocks + hashPerBlock - 1) % 2 ^ 64 / hashPerBlock = (blocks + 127) / 128 := by
    change (blocks + 128 - 1) % 2 ^ 64 / 128 = _
    omega
  rw [hcount]
  cases hasHashFile with
  | true => rfl
  | false => rfl

lemma createOrVerify_overflow {dataBlock hashBlock blocks : Nat}
    (h : ¬(dataBlock * 4096 < 2 ^ 63 ∧ hashBlock * 4096 < 2 ^ 63)) (hasHashFile : Bool)
    (hwr : hasHashFile = true ∨ hashBlock = 0) :
    ∃ e, createOrVerify sha256 salt verify hasHashFile file digest dataBlock hashBlock blocks =
      .error e ∧
      e.isOverflow = true := by
  unfold createOrVerify dataBlockSize hashBlockSize fseeko
  by_cases hmult : uint64MultOverflow dataBlock 4096 = true ∨
    uint64MultOverflow hashBlock 4096 = true
  · rw [if_pos hmult]
    exact ⟨_, rfl, rfl⟩
  · rw [if_neg hmult]
    by_cases hdata : dataBlock * 4096 < 2 ^ 63
    · rw [if_pos hdata]
      have hhash : ¬hashBlock * 4096 < 2 ^ 63 := fun hhash => h ⟨hdata, hhash⟩
      rw [if_neg hhash]
      cases hwr with
      | inl htrue =>
        rw [htrue]
        exact ⟨_, rfl, rfl⟩
      | inr hzero =>
        rw [hzero] at hhash
        omega
    · rw [if_neg hdata]
      exact ⟨_, rfl, rfl⟩

/-- Without a hash file the digest of the one block is calculated. -/
lemma hashBlocks_root {rd wr : Nat} :
    hashBlocks sha256 salt verify false ((verityTree sha256 salt).parents 1) 1 ⟨file, rd,
      wr, digest⟩ =
      if rd + 4096 ≤ file.length then
        .ok ⟨file, rd + 4096, wr, sha256 (salt ++ readAt file rd 4096)⟩
      else .error .cannotReadData := by
  rw [verityTree_parents, show (1 + 127) / 128 = 1 by omega, hashBlocks]
  change Except.bind (hashEntries sha256 salt verify false (127 + 1) (0 + 1) 4096 ⟨file, rd, wr,
    digest⟩) _ = _
  rw [hashEntries]
  unfold fread dataBlockSize
  by_cases hlen : rd + 4096 ≤ file.length
  · rw [if_pos hlen, if_pos hlen]
    rfl
  · rw [if_neg hlen, if_neg hlen]
    rfl

lemma createOrVerify_root {dataBlock : Nat} (hdata : dataBlock * 4096 < 2 ^ 63) :
    createOrVerify sha256 salt verify false file digest dataBlock 0 1 =
      if dataBlock * 4096 + 4096 ≤ file.length then
        .ok ⟨file, dataBlock * 4096 + 4096, 0, sha256 (salt ++ readAt file (dataBlock * 4096) 4096)⟩
      else .error .cannotReadData := by
  have hzero : 0 * 4096 < 2 ^ 63 := by decide
  have hone : 1 < 2 ^ 63 := by decide
  rw [@createOrVerify_fits sha256 salt file digest verify false dataBlock 0 1 hdata hzero hone,
    Nat.zero_mul,
    hashBlocks_root]

end OneLevel

section Layout

variable {file : List UInt8}

/-- The levels stand one behind the other between two blocks, the topmost one first. -/
def Stacked (sha256 : List UInt8 → Digest) (salt : List UInt8) :
    Nat → Nat → List HashLevel → Nat → Prop
  | _, stop, [], start => stop = start
  | count, stop, level :: above, start =>
    level.size = (verityTree sha256 salt).parents count ∧ level.block + level.size = stop ∧
      Stacked sha256 salt level.size level.block above start

/-- Each level of the file holds the digests of the blocks below. -/
def LevelsHashed (sha256 : List UInt8 → Digest) (salt file : List UInt8) :
    Nat → Nat → List HashLevel → Prop
  | _, _, [] => True
  | dataBlock, count, level :: above =>
    LevelHashed sha256 salt file (dataBlock * 4096) (level.block * 4096) count ∧
      LevelsHashed sha256 salt file level.block level.size above

/-- The block where the topmost level starts. -/
def topBlock : Nat → List HashLevel → Nat
  | dataBlock, [] => dataBlock
  | _, level :: above => topBlock level.block above

lemma Stacked.start_le {count stop start : Nat} {levels : List HashLevel}
    (h : Stacked sha256 salt count stop levels start) : start ≤ stop := by
  induction levels generalizing count stop with
  | nil => exact Nat.le_of_eq h.symm
  | cons level above ih =>
    obtain ⟨-, hstop, habove⟩ := h
    have := ih habove
    omega

lemma Stacked.snoc {count stop start : Nat} {levels : List HashLevel}
    (h : Stacked sha256 salt count stop levels start) {top : HashLevel}
    (hsize : top.size = (verityTree sha256 salt).countAbove (levels.length + 1) count)
    (hblock : top.block + top.size = start) :
      Stacked sha256 salt count stop (levels ++ [top]) top.block := by
  induction levels generalizing count stop with
  | nil =>
    change stop = start at h
    exact ⟨hsize, by rw [hblock, h], rfl⟩
  | cons level above ih =>
    obtain ⟨hlevel, hstop, habove⟩ := h
    refine ⟨hlevel, hstop, ih habove ?_⟩
    rw [hlevel]
    exact hsize

lemma Stacked.stop_eq {count stop start : Nat} {levels : List HashLevel}
    (h : Stacked sha256 salt count stop levels start) :
    stop = start + (verityTree sha256 salt).blocksAbove levels.length count := by
  induction levels generalizing count stop with
  | nil => exact h
  | cons level above ih =>
    obtain ⟨hsize, hstop, habove⟩ := h
    have hblock := ih habove
    rw [List.length_cons, blocksAbove, ← hsize]
    omega

/-- Higher levels end in front of the lower ones. -/
lemma Stacked.disjoint {count stop start : Nat} {levels : List HashLevel}
    (h : Stacked sha256 salt count stop levels start) :
    levels.Pairwise (fun lower upper => upper.block + upper.size ≤ lower.block) ∧
      ∀ level ∈ levels, start ≤ level.block ∧ level.block + level.size ≤ stop := by
  induction levels generalizing count stop with
  | nil => simp
  | cons level above ih =>
    obtain ⟨-, hstop, habove⟩ := h
    obtain ⟨hpair, hbounds⟩ := ih habove
    have hstart := habove.start_le
    refine ⟨List.pairwise_cons.mpr ⟨fun upper hupper => (hbounds upper hupper).2, hpair⟩, ?_⟩
    intro other hother
    cases List.mem_cons.mp hother with
    | inl heq =>
      rw [heq]
      omega
    | inr hmem =>
      have := hbounds other hmem
      omega

lemma topBlock_le {count stop start dataBlock : Nat} {levels : List HashLevel}
    (h : Stacked sha256 salt count stop levels start) (hdata : dataBlock ≤ stop) :
      topBlock dataBlock levels ≤ stop := by
  induction levels generalizing count stop dataBlock with
  | nil => exact hdata
  | cons level above ih =>
    obtain ⟨-, hstop, habove⟩ := h
    have := ih habove (Nat.le_refl _)
    rw [topBlock]
    omega

end Layout

section Counting

lemma countAbove_succ (t : BlockHash UInt8) (height count : Nat) :
    t.countAbove (height + 1) count = t.parents (t.countAbove height count) := by
  induction height generalizing count with
  | zero => rfl
  | succ height ih =>
    rw [countAbove, ih]
    rfl

/-- So many levels above there is one block for each power of 128 blocks. -/
lemma countAbove_eq (height count : Nat) :
    (verityTree sha256 salt).countAbove height count =
      (count + 128 ^ height - 1) / 128 ^ height := by
  induction height with
  | zero =>
    rw [countAbove, Nat.pow_zero, Nat.div_one, Nat.add_sub_cancel]
  | succ height ih =>
    have hpos : 0 < 128 ^ height := Nat.pow_pos (by omega)
    rw [countAbove_succ, verityTree_parents, ih, Nat.pow_succ, ← Nat.div_div_eq_div_mul]
    have hsplit : count + 128 ^ height * 128 - 1 =
      count + 128 ^ height - 1 + 128 ^ height * 127 := by omega
    rw [hsplit, Nat.add_mul_div_left _ _ hpos]

lemma levelCount_spec {n : Nat} (hpos : 0 < n) (hn : n < 2 ^ 52) :
    n ≤ 128 ^ levelCount n ∧ (∀ levels < levelCount n, 128 ^ levels < n) ∧ levelCount n ≤ 8 := by
  have hwrap : (n + 2 ^ 64 - 1) % 2 ^ 64 = n - 1 := by omega
  have hpow : ∀ levels, 2 ^ (7 * levels) = 128 ^ levels := by
    intro levels
    rw [Nat.pow_mul]
  have hshift : ∀ levels, (n - 1) >>> (7 * levels) = 0 ↔ n ≤ 128 ^ levels := by
    intro levels
    have hpow' : 0 < 128 ^ levels := Nat.pow_pos (by omega)
    rw [Nat.shiftRight_eq_div_pow, hpow, Nat.div_eq_zero_iff]
    omega
  unfold levelCount
  rw [hwrap]
  cases hfind : (List.range 64).find? (fun levels => decide ¬(hashPerBlockBits * levels < 64 ∧
      (n - 1) >>> (hashPerBlockBits * levels) ≠ 0)) with
  | none =>
    have hnever := List.find?_eq_none.mp hfind 8 (by decide)
    have hfits : n ≤ 128 ^ 8 := by omega
    rw [decide_eq_true_iff] at hnever
    exact absurd (fun h => h.2 ((hshift 8).mpr hfits)) hnever
  | some levels =>
    obtain ⟨hstop, hrange, hbefore⟩ := List.find?_range_eq_some.mp hfind
    have hsmall : levels ≤ 8 := by
      by_contra hlarge
      have hgo := hbefore 8 (by omega)
      have hfits : n ≤ 128 ^ 8 := by omega
      rw [Bool.not_eq_true', decide_eq_false_iff_not] at hgo
      exact hgo (fun h => h.2 ((hshift 8).mpr hfits))
    have hstop' := of_decide_eq_true hstop
    have hfits : n ≤ 128 ^ levels := by
      rw [← hshift]
      by_contra hmore
      exact hstop' ⟨show 7 * levels < 64 by omega, hmore⟩
    refine ⟨hfits, ?_, hsmall⟩
    intro lower hlower
    have hgo := hbefore lower hlower
    rw [Bool.not_eq_true', decide_eq_false_iff_not] at hgo
    by_contra hle
    exact hgo (fun h => h.2 ((hshift lower).mpr (by omega)))

lemma levelSize_eq {n i : Nat} (hn : n < 2 ^ 52) (hi : (i + 1) * 7 ≤ 63) :
    ((n + 2 ^ ((i + 1) * 7) - 1) % 2 ^ 64) >>> ((i + 1) * 7) =
      (verityTree sha256 salt).countAbove (i + 1) n := by
  have hle : 2 ^ ((i + 1) * 7) ≤ 2 ^ 63 := Nat.pow_le_pow_right (by omega) hi
  have hpow : 2 ^ ((i + 1) * 7) = 128 ^ (i + 1) := by
    rw [Nat.mul_comm, Nat.pow_mul]
  rw [Nat.mod_eq_of_lt (by omega), Nat.shiftRight_eq_div_pow, countAbove_eq, hpow]

lemma hashLevelsFrom_spec {n : Nat} (hn : n < 2 ^ 52) {levels : List HashLevel} {stop : Nat}
    (i pos : Nat)
    (hpos : pos < 2 ^ 64) (h : hashLevelsFrom n i pos = .ok (levels, stop)) :
    levels.length = i ∧ Stacked sha256 salt n stop levels pos := by
  induction i generalizing pos levels stop with
  | zero =>
    obtain ⟨rfl, rfl⟩ := Prod.mk.inj (Except.ok.inj h)
    exact ⟨rfl, rfl⟩
  | succ i ih =>
    rw [hashLevelsFrom, show hashPerBlockBits = 7 from rfl] at h
    split_ifs at h with hshift
    simp only at h
    rw [@levelSize_eq sha256 salt n i hn (by omega)] at h
    split_ifs at h with hwrap
    have hsize : (verityTree sha256 salt).countAbove (i + 1) n < 2 ^ 64 := by
      rw [← levelSize_eq hn (by omega), Nat.shiftRight_eq_div_pow]
      exact Nat.lt_of_le_of_lt (Nat.div_le_self _ _) (Nat.mod_lt _ (by omega))
    have hnext : (pos + (verityTree sha256 salt).countAbove (i + 1) n) % 2 ^ 64 =
        pos + (verityTree sha256 salt).countAbove (i + 1) n := by omega
    rw [hnext] at h
    cases hbelow : hashLevelsFrom n i (pos + (verityTree sha256 salt).countAbove (i + 1) n) with
    | error e =>
      rw [hbelow] at h
      exact absurd h (by simp [Except.map])
    | ok below =>
      rw [hbelow] at h
      obtain ⟨rfl, rfl⟩ := Prod.mk.inj (Except.ok.inj h)
      obtain ⟨hlength, hstacked⟩ := ih _ (by omega) hbelow
      refine ⟨by rw [List.length_append, hlength]; rfl, ?_⟩
      apply hstacked.snoc
      · rw [hlength]
      · rfl

lemma hashLevelsFrom_error {n i pos : Nat} {e : HashError} (h : hashLevelsFrom n i pos = .error e) :
    e.isOverflow = true := by
  induction i generalizing pos with
  | zero => exact absurd h (by simp [hashLevelsFrom])
  | succ i ih =>
    rw [hashLevelsFrom] at h
    split_ifs at h with hshift
    · rw [← Except.error.inj h]
      rfl
    · simp only at h
      split_ifs at h with hwrap
      · rw [← Except.error.inj h]
        rfl
      · cases hbelow :
            hashLevelsFrom n i ((pos + ((n + 2 ^ ((i + 1) * hashPerBlockBits) - 1) % 2 ^ 64) >>>
            ((i + 1) * hashPerBlockBits)) % 2 ^ 64) with
        | error e' =>
          rw [hbelow] at h
          rw [show e' = e from Except.error.inj h] at hbelow
          exact ih hbelow
        | ok below =>
          rw [hbelow] at h
          exact absurd h (by simp [Except.map])

lemma countAbove_le {n : Nat} (hpos : 0 < n) (height : Nat) :
    (verityTree sha256 salt).countAbove height n ≤ n := by
  have hpow : 0 < 128 ^ height := Nat.pow_pos (by omega)
  rw [countAbove_eq]
  apply Nat.div_le_of_le_mul
  have hmul := Nat.mul_le_mul hpow hpos
  have hexpand : (128 ^ height - 1) * (n - 1) + (128 ^ height - 1) + (n - 1) + 1 =
      128 ^ height * n := by
    obtain ⟨p, hp⟩ := Nat.exists_eq_succ_of_ne_zero (show 128 ^ height ≠ 0 by omega)
    obtain ⟨m, hm⟩ := Nat.exists_eq_succ_of_ne_zero (show n ≠ 0 by omega)
    rw [hp, hm, Nat.succ_sub_one, Nat.succ_sub_one, Nat.succ_mul, Nat.mul_succ]
    omega
  omega

lemma hashLevelsFrom_small {n i pos : Nat} (hpos : 0 < n) (hn : n < 2 ^ 52) (hi : i ≤ 8)
    (hroom : pos + i * n < 2 ^ 63) :
    ∃ levels stop, hashLevelsFrom n i pos = .ok (levels, stop) ∧ stop ≤ pos + i * n := by
  induction i generalizing pos with
  | zero => exact ⟨[], pos, rfl, by omega⟩
  | succ i ih =>
    have hle := @countAbove_le (fun _ => ⟨List.replicate 32 0, rfl⟩) [] n hpos (i + 1)
    have hsize := @levelSize_eq (fun _ => ⟨List.replicate 32 0, rfl⟩) [] n i hn (by omega)
    rw [Nat.succ_mul] at hroom ⊢
    obtain ⟨levels, stop, hbelow, hstop⟩ :=
      @ih (pos + (verityTree (fun _ => ⟨List.replicate 32 0, rfl⟩) []).countAbove
      (i + 1) n) (by omega) (by omega)
    refine ⟨levels ++ [⟨pos, (verityTree (fun _ => ⟨List.replicate 32 0, rfl⟩) []).countAbove
      (i + 1) n⟩], stop, ?_,
      by omega⟩
    rw [hashLevelsFrom, show hashPerBlockBits = 7 from rfl, if_neg (by omega)]
    simp only [hsize]
    rw [if_neg (by omega), Nat.mod_eq_of_lt (by omega), hbelow]
    rfl

/-- Up to a large number of blocks the layout does not overflow. -/
lemma hashLevels_small {n : Nat} (hpos : 0 < n) (hn : n ≤ 2 ^ 47) :
    ∃ levels stop, hashLevels n = .ok (levels, stop) ∧ stop * 4096 < 2 ^ 63 := by
  obtain ⟨-, -, hcount⟩ := levelCount_spec hpos (by omega)
  have hmul : levelCount n * n ≤ 8 * n := Nat.mul_le_mul_right n hcount
  obtain ⟨levels, stop, hok, hstop⟩ := @hashLevelsFrom_small n (levelCount n) n hpos (by omega)
    hcount (by omega)
  refine ⟨levels, stop, ?_, by omega⟩
  unfold hashLevels
  rw [if_neg (by unfold verityMaxLevels; omega), hok]

/-- The levels stand behind the data and end in a single block. -/
lemma hashLevels_spec {n : Nat} (hpos : 0 < n) (hn : n < 2 ^ 52) {levels : List HashLevel}
    {stop : Nat}
    (h : hashLevels n = .ok (levels, stop)) :
    Stacked sha256 salt n stop levels n ∧ (verityTree sha256 salt).countAbove levels.length n =
      1 := by
  unfold hashLevels at h
  split_ifs at h
  obtain ⟨hlength, hstacked⟩ := @hashLevelsFrom_spec sha256 salt n hn levels stop (levelCount n) n
    (by omega) h
  refine ⟨hstacked, ?_⟩
  obtain ⟨hle, -, -⟩ := levelCount_spec hpos hn
  rw [hlength, countAbove_eq, Nat.div_eq_iff (by omega)]
  omega

/-- Trees of the same size have equally many levels. -/
lemma length_levels_of_size {n n' stop stop' : Nat} {levels levels' : List HashLevel}
    (hpos : 0 < n) (hn : n < 2 ^ 52)
    (hpos' : 0 < n') (hn' : n' < 2 ^ 52) (h : hashLevels n = .ok (levels, stop))
    (h' : hashLevels n' = .ok (levels', stop')) (hsize : stop + n' = stop' + n) :
      levels.length ≤ levels'.length := by
  unfold hashLevels at h h'
  split_ifs at h h'
  obtain ⟨hlength, hstacked⟩ := @hashLevelsFrom_spec (fun _ => ⟨List.replicate 32 0, rfl⟩) [] n
    hn levels stop
    (levelCount n) n (by omega) h
  obtain ⟨hlength', hstacked'⟩ := @hashLevelsFrom_spec (fun _ => ⟨List.replicate 32 0, rfl⟩) [] n'
    hn' levels' stop'
    (levelCount n') n' (by omega) h'
  by_contra hmore
  obtain ⟨hfits, -, -⟩ := levelCount_spec hpos' hn'
  obtain ⟨-, hbefore, -⟩ := levelCount_spec hpos hn
  have hless := hbefore (levelCount n') (by omega)
  have hlt := @blocksAbove_lt _ (verityTree (fun _ => ⟨List.replicate 32 0, rfl⟩) [])
    levels'.length levels.length n' n
    (by omega) (by omega) hpos
  have hstop := hstacked.stop_eq
  have hstop' := hstacked'.stop_eq
  omega

end Counting

section Runs

variable {file : List UInt8}

lemma hashEachLevel_verify_inv {out : List UInt8 × Digest} {count stop start dataBlock : Nat}
    {levels : List HashLevel}
    {digest : Digest} (hstacked : Stacked sha256 salt count stop levels start)
    (hcount : count < 2 ^ 63)
    (h : hashEachLevel sha256 salt true file digest dataBlock count levels = .ok out) :
    out.1 = file ∧ LevelsHashed sha256 salt file dataBlock count levels := by
  induction levels generalizing count stop dataBlock digest with
  | nil =>
    rw [← Except.ok.inj h]
    exact ⟨rfl, trivial⟩
  | cons level above ih =>
    obtain ⟨hsize, -, habove⟩ := hstacked
    rw [hashEachLevel] at h
    by_cases hfits : dataBlock * 4096 < 2 ^ 63 ∧ level.block * 4096 < 2 ^ 63
    · rw [createOrVerify_fits hfits.1 hfits.2 hcount] at h
      cases hrun : hashBlocks sha256 salt true true ((verityTree sha256 salt).parents count) count
          ⟨file, dataBlock * 4096, level.block * 4096, digest⟩ with
      | error e =>
        rw [hrun] at h
        exact absurd h (by simp [bind, Except.bind])
      | ok run =>
        rw [hrun] at h
        obtain ⟨hhashed, hfile⟩ := hashBlocks_verify_inv _ count rfl hrun
        change hashEachLevel sha256 salt true run.file run.calculatedDigest level.block level.size
          above = .ok out at h
        rw [hfile] at h
        have hsmall : level.size < 2 ^ 63 := by
          rw [hsize, verityTree_parents]
          omega
        obtain ⟨hout, hrest⟩ := ih habove hsmall h
        exact ⟨hout, hhashed, hrest⟩
    · obtain ⟨e, hfail, -⟩ := @createOrVerify_overflow sha256 salt file digest true dataBlock
        level.block count hfits true
        (Or.inl rfl)
      rw [hfail] at h
      exact absurd h (by simp [bind, Except.bind])

lemma hashEachLevel_verify_ok {count stop start dataBlock : Nat} {levels : List HashLevel}
    {digest : Digest}
    (hstacked : Stacked sha256 salt count stop levels start) (hcount : count < 2 ^ 63)
    (hdata : dataBlock * 4096 < 2 ^ 63) (hfits : ∀ level ∈ levels, level.block * 4096 < 2 ^ 63)
    (h : LevelsHashed sha256 salt file dataBlock count levels) :
    ∃ d, hashEachLevel sha256 salt true file digest dataBlock count levels = .ok (file, d) := by
  induction levels generalizing count stop dataBlock digest with
  | nil => exact ⟨digest, rfl⟩
  | cons level above ih =>
    obtain ⟨hsize, -, habove⟩ := hstacked
    have hlevel := hfits level List.mem_cons_self
    obtain ⟨run, hrun, hfile⟩ := @hashBlocks_verify_ok sha256 salt file (dataBlock * 4096)
      (level.block * 4096) digest
      _ count rfl h.1
    have hsmall : level.size < 2 ^ 63 := by
      rw [hsize, verityTree_parents]
      omega
    obtain ⟨d, hrest⟩ := @ih level.size level.block level.block run.calculatedDigest habove
      hsmall hlevel
      (fun other hother => hfits other (List.mem_cons_of_mem _ hother)) h.2
    refine ⟨d, ?_⟩
    rw [hashEachLevel, createOrVerify_fits hdata hlevel hcount, hrun]
    change hashEachLevel sha256 salt true run.file run.calculatedDigest level.block
      level.size above = _
    rw [hfile]
    exact hrest

/-- A file is as before except between two blocks. -/
def KeptOutside (file file' : List UInt8) (start stop : Nat) : Prop :=
  ∀ pos len, (readAt file pos len).length = len → (pos + len ≤ start * 4096 ∨ stop * 4096 ≤ pos) →
    readAt file' pos len = readAt file pos len

lemma LevelHashed.kept {file' : List UInt8} {start stop dataBlock hashBlock count : Nat}
    (h : LevelHashed sha256 salt file (dataBlock * 4096) (hashBlock * 4096) count)
    (hkept : KeptOutside file file' start stop)
    (hdata : dataBlock + count ≤ start ∨ stop ≤ dataBlock)
    (hhash : stop ≤ hashBlock) :
    LevelHashed sha256 salt file' (dataBlock * 4096) (hashBlock * 4096) count := by
  obtain ⟨hread, hlevel⟩ := h
  have hsame := hkept (dataBlock * 4096) (4096 * count) hread (by omega)
  have hlong :
      (readAt file (hashBlock * 4096) (4096 * (verityTree sha256 salt).parents count)).length =
      4096 * (verityTree sha256 salt).parents count := by
    rw [hlevel, length_parentLevel, verityTree_blockSize]
  refine ⟨by rw [hsame, hread], ?_⟩
  rw [hkept _ _ hlong (by omega), hsame, hlevel]

/-- Creation of the levels between two blocks: the blocks that are hashed stand in front or
behind. -/
lemma hashEachLevel_create {count stop start dataBlock : Nat} {levels : List HashLevel}
    {digest : Digest}
    (hstacked : Stacked sha256 salt count stop levels start) (hcount : count < 2 ^ 63)
    (hread : (readAt file (dataBlock * 4096) (4096 * count)).length = 4096 * count)
    (hapart : dataBlock + count ≤ start ∨ stop ≤ dataBlock) {bound : Nat}
    (hdata : dataBlock ≤ bound)
    (hbound : stop ≤ bound) :
    (∃ e, hashEachLevel sha256 salt false file digest dataBlock count levels = .error e ∧
        e.isOverflow = true ∧
        2 ^ 63 ≤ bound * 4096) ∨
      ∃ file' d, hashEachLevel sha256 salt false file digest dataBlock count levels =
        .ok (file', d) ∧
        (∀ level ∈ levels, level.block * 4096 < 2 ^ 63) ∧
          LevelsHashed sha256 salt file' dataBlock count levels ∧
        KeptOutside file file' start stop := by
  induction levels generalizing count stop dataBlock digest file with
  | nil => exact Or.inr ⟨file, digest, rfl, by simp, trivial, fun _ _ _ _ => rfl⟩
  | cons level above ih =>
    obtain ⟨hsize, hstop, habove⟩ := hstacked
    have hstart := habove.start_le
    by_cases hfits : dataBlock * 4096 < 2 ^ 63 ∧ level.block * 4096 < 2 ^ 63
    · obtain ⟨run, hrun, hfile⟩ := @hashBlocks_create sha256 salt file (dataBlock * 4096)
        (level.block * 4096) digest
        _ count rfl hread (by omega)
      have hlong := @length_parentLevel _ (verityTree sha256 salt) count
        (readAt file (dataBlock * 4096) (4096 * count))
      rw [verityTree_blockSize, ← hsize] at hlong
      have hkept : KeptOutside file run.file level.block stop := by
        intro pos len hin hout
        rw [hfile]
        apply readAt_overwrite_apart hin
        rw [hlong]
        cases hout with
        | inl hbefore => exact Or.inl hbefore
        | inr hbehind =>
          rw [← hstop, Nat.add_mul] at hbehind
          exact Or.inr (by rwa [Nat.mul_comm 4096])
      have hhere : LevelHashed sha256 salt run.file (dataBlock * 4096)
          (level.block * 4096) count := by
        have hsame := hkept (dataBlock * 4096) (4096 * count) hread (by omega)
        refine ⟨by rw [hsame, hread], ?_⟩
        rw [hsame, ← hsize, ← hlong, hfile, readAt_overwrite]
      have hreadable : (readAt run.file (level.block * 4096) (4096 * level.size)).length =
          4096 * level.size := by
        rw [hsize, hhere.2, length_parentLevel, verityTree_blockSize]
      have hsmall : level.size < 2 ^ 63 := by
        rw [hsize, verityTree_parents]
        omega
      have hstep : hashEachLevel sha256 salt false file digest dataBlock count (level :: above) =
          hashEachLevel sha256 salt false run.file run.calculatedDigest level.block
            level.size above := by
        rw [hashEachLevel, createOrVerify_fits hfits.1 hfits.2 hcount, hrun]
        rfl
      rw [hstep]
      cases @ih run.file level.size level.block level.block run.calculatedDigest habove
          hsmall hreadable
          (Or.inr (Nat.le_refl _)) (by omega) (by omega) with
      | inl hover => exact Or.inl hover
      | inr hdone =>
        obtain ⟨file', d, hrest, hlevels, hhashed, hkept'⟩ := hdone
        refine Or.inr ⟨file', d, hrest, ?_, ⟨hhere.kept hkept' (by omega) (Nat.le_refl _),
          hhashed⟩, ?_⟩
        · intro other hother
          cases List.mem_cons.mp hother with
          | inl heq =>
            rw [heq]
            exact hfits.2
          | inr hmem => exact hlevels other hmem
        · intro pos len hin hout
          have hlow : start * 4096 ≤ level.block * 4096 := Nat.mul_le_mul_right _ hstart
          have hhigh : level.block * 4096 ≤ stop * 4096 := Nat.mul_le_mul_right _ (by omega)
          have hfirst := hkept pos len hin (hout.imp (fun h => Nat.le_trans h hlow) id)
          rw [hkept' pos len (by rw [hfirst, hin]) (hout.imp id (fun h => Nat.le_trans hhigh h)),
            hfirst]
    · obtain ⟨e, hfail, hover⟩ := @createOrVerify_overflow sha256 salt file digest false dataBlock
        level.block count hfits
        true (Or.inl rfl)
      refine Or.inl ⟨e, ?_, hover, ?_⟩
      · rw [hashEachLevel, hfail]
        rfl
      · have hlow : dataBlock * 4096 ≤ bound * 4096 := Nat.mul_le_mul_right _ hdata
        have hhigh : level.block * 4096 ≤ bound * 4096 := Nat.mul_le_mul_right _ (by omega)
        by_contra hroom
        exact hfits ⟨by omega, by omega⟩

end Runs

section Binding

variable {file : List UInt8}

/-- A whole block of the file. -/
def IsBlock (file block : List UInt8) : Prop := ∃ i, 4096 * i + 4096 ≤ file.length ∧
    block = readAt file (4096 * i) 4096

lemma blocksIn_readAt {dataBlock count : Nat}
    (hread : (readAt file (dataBlock * 4096) (4096 * count)).length = 4096 * count) :
    (verityTree sha256 salt).BlocksIn (IsBlock file) count
      (readAt file (dataBlock * 4096) (4096 * count)) := by
  intro i hi
  rw [verityTree_blockSize, readAt_readAt (by omega)]
  rw [length_readAt] at hread
  refine ⟨dataBlock + i, by omega, ?_⟩
  rw [show dataBlock * 4096 + 4096 * i = 4096 * (dataBlock + i) by omega]

/-- The topmost level of the file is that of the tree, and every level of the tree is in the
file. -/
lemma LevelsHashed.above {count stop start dataBlock : Nat} {levels : List HashLevel}
    (hstacked : Stacked sha256 salt count stop levels start)
    (hread : (readAt file (dataBlock * 4096) (4096 * count)).length = 4096 * count)
    (h : LevelsHashed sha256 salt file dataBlock count levels) :
    readAt file (topBlock dataBlock levels * 4096) (4096 * (verityTree sha256 salt).countAbove
        levels.length count) =
        (verityTree sha256 salt).above levels.length count
          (readAt file (dataBlock * 4096) (4096 * count)) ∧
      (verityTree sha256 salt).LevelsIn (IsBlock file) levels.length count
        (readAt file (dataBlock * 4096) (4096 * count)) := by
  induction levels generalizing count stop dataBlock with
  | nil => exact ⟨rfl, blocksIn_readAt hread⟩
  | cons level above ih =>
    obtain ⟨hsize, -, habove⟩ := hstacked
    obtain ⟨⟨-, hlevel⟩, hrest⟩ := h
    have hreadable : (readAt file (level.block * 4096) (4096 * level.size)).length =
        4096 * level.size := by
      rw [hsize, hlevel, length_parentLevel, verityTree_blockSize]
    obtain ⟨htop, hin⟩ := ih habove hreadable hrest
    rw [hsize, hlevel] at htop hin
    exact ⟨htop, blocksIn_readAt hread, hin⟩

/-- Files with the same data have the same levels. -/
lemma LevelsHashed.same_area {file' : List UInt8} {count stop start dataBlock : Nat}
    {levels : List HashLevel}
    (hstacked : Stacked sha256 salt count stop levels start)
    (hsame : readAt file' (dataBlock * 4096) (4096 * count) =
      readAt file (dataBlock * 4096) (4096 * count))
    (h : LevelsHashed sha256 salt file dataBlock count levels)
    (h' : LevelsHashed sha256 salt file' dataBlock count levels) :
    readAt file' (start * 4096) ((stop - start) * 4096) =
      readAt file (start * 4096) ((stop - start) * 4096) := by
  induction levels generalizing count stop dataBlock with
  | nil =>
    change stop = start at hstacked
    rw [hstacked, Nat.sub_self, Nat.zero_mul, readAt_zero, readAt_zero]
  | cons level above ih =>
    obtain ⟨hsize, hstop, habove⟩ := hstacked
    have hstart := habove.start_le
    have hlevel : readAt file' (level.block * 4096) (4096 * level.size) =
        readAt file (level.block * 4096) (4096 * level.size) := by
      rw [hsize, h.1.2, h'.1.2, hsame]
    have hrest := ih habove hlevel h.2 h'.2
    rw [show (stop - start) * 4096 = (level.block - start) * 4096 + 4096 *
      level.size by omega, readAt_add, readAt_add,
      hrest, show start * 4096 + (level.block - start) * 4096 = level.block * 4096 by omega, hlevel]

/-- What a successful verification says about a file. -/
structure VerifiedFile (sha256 : List UInt8 → Digest) (salt file : List UInt8) (n : Nat)
    (root : List UInt8)
    (levels : List HashLevel) (stop : Nat) : Prop where
  pos : 0 < n
  small : n < 2 ^ 52
  layout : hashLevels n = .ok (levels, stop)
  readable : (readAt file 0 (4096 * n)).length = 4096 * n
  hashed : LevelsHashed sha256 salt file 0 n levels
  top : topBlock 0 levels * 4096 + 4096 ≤ file.length
  root : root = (verityTree sha256 salt).hash (readAt file (topBlock 0 levels * 4096) 4096)

lemma topBlock_of_getLast {dataBlock : Nat} {levels : List HashLevel} {top : HashLevel}
    (h : levels.getLast? = some top) : topBlock dataBlock levels = top.block := by
  induction levels generalizing dataBlock with
  | nil => exact absurd h (by simp)
  | cons level above ih =>
    rw [topBlock]
    cases above with
    | nil =>
      rw [List.getLast?_singleton] at h
      rw [← Option.some.inj h]
      rfl
    | cons next rest =>
      rw [List.getLast?_cons_cons] at h
      exact ih h

/-- The root is the digest of the first block of the topmost level. -/
lemma hashRoot_eq {verify : Bool} {digest : Digest} {n : Nat} {levels : List HashLevel}
    (hone : levels = [] → n = 1) :
    hashRoot sha256 salt verify file digest n levels =
      createOrVerify sha256 salt verify false file digest (topBlock 0 levels) 0 1 := by
  unfold hashRoot
  cases hlast : levels.getLast? with
  | some top => rw [topBlock_of_getLast hlast]
  | none =>
    have hnil := List.getLast?_eq_none_iff.mp hlast
    rw [hnil, hone hnil]
    rfl

lemma hashLevels_zero : hashLevels 0 = .error .hashAreaOverflow := by
  decide

lemma verityCreateOrVerifyHash_eq {verify : Bool} {n stop : Nat} {levels : List HashLevel}
    (hsmall : n < 2 ^ 52)
    (hlayout : hashLevels n = .ok (levels, stop)) (hstop : stop * 4096 < 2 ^ 64)
    (hone : levels = [] → n = 1) :
    verityCreateOrVerifyHash sha256 salt verify file n =
      Except.bind (hashEachLevel sha256 salt verify file ⟨List.replicate 32 0, rfl⟩ 0 n levels)
        (fun hashed =>
        Except.bind (createOrVerify sha256 salt verify false hashed.1 hashed.2 (topBlock 0 levels)
          0 1) (fun run =>
          .ok ⟨run.file, stop, run.calculatedDigest⟩)) := by
  unfold verityCreateOrVerifyHash dataBlockSize hashBlockSize
  rw [if_neg (by rw [uint64MultOverflow_iff]; omega), hlayout]
  change (if uint64MultOverflow stop 4096 =
    true then _ else Except.bind (hashEachLevel sha256 salt verify file
    ⟨List.replicate 32 0, rfl⟩ 0 n levels) (fun hashed =>
      Except.bind (hashRoot sha256 salt verify hashed.1 hashed.2 n levels) _)) = _
  have hnot : ¬uint64MultOverflow stop 4096 = true := by
    rw [uint64MultOverflow_iff]
    omega
  refine (if_neg hnot).trans ?_
  simp only [hashRoot_eq hone]
  rfl

/-- Where creation or verification stops before it has looked at the file. -/
lemma verityCreateOrVerifyHash_early {verify : Bool} {n : Nat} :
    (∃ e, verityCreateOrVerifyHash sha256 salt verify file n = .error e ∧ e.isOverflow = true ∧
        (0 < n → 2 ^ 47 < n)) ∨
      (0 < n ∧ n < 2 ^ 52 ∧ ∃ levels stop, hashLevels n = .ok (levels, stop) ∧
        stop * 4096 < 2 ^ 64 ∧
        (n ≤ 2 ^ 47 → stop * 4096 < 2 ^ 63)) := by
  by_cases hmult : uint64MultOverflow n 4096 = true
  · left
    unfold verityCreateOrVerifyHash dataBlockSize
    rw [if_pos hmult]
    rw [uint64MultOverflow_iff] at hmult
    exact ⟨_, rfl, rfl, fun _ => by omega⟩
  · cases hlayout : hashLevels n with
    | error e =>
      left
      refine ⟨e, ?_, ?_, ?_⟩
      · unfold verityCreateOrVerifyHash dataBlockSize
        rw [if_neg hmult, hlayout]
        rfl
      · unfold hashLevels at hlayout
        split_ifs at hlayout with hmax
        · rw [← Except.error.inj hlayout]
          rfl
        · exact hashLevelsFrom_error hlayout
      · intro hpos
        by_contra hle
        obtain ⟨levels, stop, hok, -⟩ := hashLevels_small hpos (by omega)
        rw [hok] at hlayout
        exact absurd hlayout (by simp)
    | ok found =>
      have hroom : 0 < n → n ≤ 2 ^ 47 → found.2 * 4096 < 2 ^ 63 := by
        intro hpos hle
        obtain ⟨levels, stop, hok, hstop⟩ := hashLevels_small hpos hle
        rw [hok] at hlayout
        rwa [← Except.ok.inj hlayout]
      by_cases hstop : uint64MultOverflow found.2 4096 = true
      · left
        refine ⟨.deviceOffsetOverflow, ?_, rfl, ?_⟩
        · unfold verityCreateOrVerifyHash dataBlockSize hashBlockSize
          rw [if_neg hmult, hlayout]
          change (if uint64MultOverflow found.2 4096 = true then _ else _) = _
          rw [if_pos hstop]
        · intro hpos
          by_contra hle
          have := hroom hpos (by omega)
          rw [uint64MultOverflow_iff] at hstop
          omega
      · right
        rw [uint64MultOverflow_iff] at hmult hstop
        have hpos : 0 < n := by
          by_contra hzero
          obtain rfl : n = 0 := by omega
          rw [hashLevels_zero] at hlayout
          exact absurd hlayout (by simp)
        exact ⟨hpos, by omega, found.1, found.2, rfl, by omega, hroom hpos⟩

lemma one_of_no_levels {n stop : Nat} {levels : List HashLevel} (hpos : 0 < n) (hsmall : n < 2 ^ 52)
    (hlayout : hashLevels n = .ok (levels, stop)) : levels = [] → n = 1 := by
  intro hnil
  obtain ⟨-, hcount⟩ := @hashLevels_spec (fun _ => ⟨List.replicate 32 0, rfl⟩) [] n hpos hsmall
    levels stop hlayout
  rw [hnil] at hcount
  exact hcount

theorem rVerityHashVerify_inv {n : Nat} {root : List UInt8}
    (h : rVerityHashVerify sha256 file n root salt = .ok ()) :
    ∃ levels stop, VerifiedFile sha256 salt file n root levels stop := by
  unfold rVerityHashVerify at h
  cases @verityCreateOrVerifyHash_early sha256 salt file true n with
  | inl hearly =>
    obtain ⟨e, hfail, -⟩ := hearly
    rw [hfail] at h
    exact absurd h (by simp [bind, Except.bind])
  | inr hlevels =>
    obtain ⟨hpos, hsmall, levels, stop, hlayout, hstop, -⟩ := hlevels
    refine ⟨levels, stop, ?_⟩
    have hone := one_of_no_levels hpos hsmall hlayout
    obtain ⟨hstacked, hcount⟩ := @hashLevels_spec sha256 salt n hpos hsmall levels stop hlayout
    rw [verityCreateOrVerifyHash_eq hsmall hlayout hstop hone] at h
    cases hrun : hashEachLevel sha256 salt true file ⟨List.replicate 32 0, rfl⟩ 0 n levels with
    | error e =>
      rw [hrun] at h
      exact absurd h (by simp [bind, Except.bind])
    | ok hashed =>
      rw [hrun] at h
      obtain ⟨hfile, hhashed⟩ := hashEachLevel_verify_inv hstacked (by omega) hrun
      change Except.bind (Except.bind (createOrVerify sha256 salt true false hashed.1 hashed.2
        (topBlock 0 levels) 0 1) _)
        _ = _ at h
      rw [hfile] at h
      by_cases hseek : topBlock 0 levels * 4096 < 2 ^ 63
      · rw [createOrVerify_root hseek] at h
        by_cases hread : topBlock 0 levels * 4096 + 4096 ≤ file.length
        · rw [if_pos hread] at h
          change (if root = (verityTree sha256 salt).hash
            (readAt file (topBlock 0 levels * 4096) 4096) then
            Except.ok () else _) = _ at h
          split_ifs at h with hroot
          refine ⟨hpos, hsmall, hlayout, ?_, hhashed, hread, hroot⟩
          cases levels with
          | nil =>
            rw [hone rfl]
            exact length_readAt_of_le (by change 0 * 4096 + 4096 ≤ file.length at hread; omega)
          | cons level above =>
            have hfirst := hhashed.1.1
            rwa [Nat.zero_mul] at hfirst
        · rw [if_neg hread] at h
          exact absurd h (by simp [Except.bind])
      · obtain ⟨e, hfail, -⟩ := @createOrVerify_overflow sha256 salt file hashed.2 true
          (topBlock 0 levels) 0 1
          (fun hfits => hseek hfits.1) false (Or.inr rfl)
        rw [hfail] at h
        exact absurd h (by simp [Except.bind])

theorem rVerityHashVerify_ok {n stop : Nat} {root : List UInt8} {levels : List HashLevel}
    (h : VerifiedFile sha256 salt file n root levels stop) (hstop : stop * 4096 < 2 ^ 64)
    (hfits : ∀ level ∈ levels, level.block * 4096 < 2 ^ 63)
    (htop : topBlock 0 levels * 4096 < 2 ^ 63) :
    rVerityHashVerify sha256 file n root salt = .ok () := by
  have hone := one_of_no_levels h.pos h.small h.layout
  obtain ⟨hstacked, -⟩ := @hashLevels_spec sha256 salt n h.pos h.small levels stop h.layout
  have hsmall := h.small
  obtain ⟨d, hrun⟩ := @hashEachLevel_verify_ok sha256 salt file n stop n 0 levels
    ⟨List.replicate 32 0, rfl⟩ hstacked
    (by omega) (by decide) hfits h.hashed
  unfold rVerityHashVerify
  rw [verityCreateOrVerifyHash_eq h.small h.layout hstop hone, hrun]
  change Except.bind (Except.bind (createOrVerify sha256 salt true false file d (topBlock 0 levels)
    0 1) _) _ = _
  rw [createOrVerify_root htop, if_pos h.top]
  change (if root = (verityTree sha256 salt).hash (readAt file (topBlock 0 levels * 4096) 4096) then
    Except.ok () else _) = _
  rw [if_pos h.root]

/-- The topmost block of a verified file is that of the tree over its data. -/
lemma VerifiedFile.above {n stop : Nat} {root : List UInt8} {levels : List HashLevel}
    (h : VerifiedFile sha256 salt file n root levels stop) :
    readAt file (topBlock 0 levels * 4096) 4096 =
        (verityTree sha256 salt).above levels.length n (readAt file 0 (4096 * n)) ∧
      (verityTree sha256 salt).LevelsIn (IsBlock file) levels.length n
        (readAt file 0 (4096 * n)) := by
  obtain ⟨hstacked, hcount⟩ := @hashLevels_spec sha256 salt n h.pos h.small levels stop h.layout
  have hread : (readAt file (0 * 4096) (4096 * n)).length = 4096 * n := by
    rw [Nat.zero_mul]
    exact h.readable
  have habove := h.hashed.above hstacked hread
  rwa [hcount, Nat.mul_one, Nat.zero_mul] at habove

/-- Two verified files with the same root and equally many levels have the same data, if they have
equally many blocks or no digest looks like filling. -/
theorem VerifiedFile.determines {file' root : List UInt8} {n n' stop stop' : Nat}
    {levels levels' : List HashLevel}
    (h : VerifiedFile sha256 salt file n root levels stop)
    (h' : VerifiedFile sha256 salt file' n' root levels' stop')
    (hapart : (verityTree sha256 salt).Apart (IsBlock file) (IsBlock file'))
    (hheight : levels.length = levels'.length)
    (hcount : n = n' ∨ (verityTree sha256 salt).NoFill (IsBlock file) ∧
      (verityTree sha256 salt).NoFill (IsBlock file')) :
    n = n' ∧ readAt file 0 (4096 * n) = readAt file' 0 (4096 * n') := by
  obtain ⟨htop, hin⟩ := h.above
  obtain ⟨htop', hin'⟩ := h'.above
  have hblock : ∀ {f : List UInt8} {l : List HashLevel}, topBlock 0 l * 4096 + 4096 ≤ f.length →
      IsBlock f (readAt f (topBlock 0 l * 4096) 4096) := by
    intro f l hl
    exact ⟨topBlock 0 l, by omega, by rw [Nat.mul_comm]⟩
  have hsame := hapart _ _ (hblock h.top) (hblock h'.top) (h.root.symm.trans h'.root)
  rw [htop, htop', ← hheight] at hsame
  rw [← hheight] at hin'
  exact above_injective hapart levels.length (by rw [h.readable, verityTree_blockSize])
    (by rw [h'.readable, verityTree_blockSize]) hin hin' hcount hsame

/-- With the same number of blocks, all of the hash area is the same as well. -/
theorem VerifiedFile.same_area {file' root : List UInt8} {n stop stop' : Nat}
    {levels levels' : List HashLevel}
    (h : VerifiedFile sha256 salt file n root levels stop)
    (h' : VerifiedFile sha256 salt file' n root levels' stop')
    (hapart : (verityTree sha256 salt).Apart (IsBlock file) (IsBlock file')) :
    readAt file' 0 (4096 * stop) = readAt file 0 (4096 * stop) := by
  obtain ⟨rfl, -⟩ := Prod.mk.inj (Except.ok.inj (h.layout.symm.trans h'.layout))
  obtain ⟨-, hdata⟩ := h.determines h' hapart rfl (Or.inl rfl)
  obtain ⟨hstacked, -⟩ := @hashLevels_spec sha256 salt n h.pos h.small levels stop h.layout
  have hstart := hstacked.start_le
  have harea := LevelsHashed.same_area hstacked (by rw [Nat.zero_mul, hdata]) h.hashed h'.hashed
  rw [show 4096 * stop = 4096 * n + (stop - n) *
    4096 by omega, readAt_add, readAt_add, hdata, Nat.zero_add,
    Nat.mul_comm 4096 n, harea]

end Binding

/-- Creation of a hash tree reports an overflow, or it leaves the data as they are, fills the area
behind them with the levels of the tree, and its root is accepted; then every change to the two
areas is rejected. -/
theorem verity_create_verify (sha256 : List UInt8 → Digest) (salt file : List UInt8) (n : Nat)
    (hn : 1 ≤ n)
    (hfile : 4096 * n ≤ file.length) :
    (2 ^ 47 < n ∧ ∃ e, rVerityHashCreate sha256 file n salt = .error e ∧ e.isOverflow = true) ∨
    ∃ created levels, rVerityHashCreate sha256 file n salt = .ok created ∧
      hashLevels n = .ok (levels, created.combinedBlocks) ∧
      readAt created.file 0 (4096 * n) = readAt file 0 (4096 * n) ∧
      Stacked sha256 salt n created.combinedBlocks levels n ∧
      levels.Pairwise (fun lower upper => upper.block + upper.size ≤ lower.block) ∧
      LevelsHashed sha256 salt created.file 0 n levels ∧
      rVerityHashVerify sha256 created.file n created.digest.bytes salt = .ok () ∧
      ∀ changed : List UInt8, (verityTree sha256 salt).Apart (IsBlock created.file)
        (IsBlock changed) →
        (∃ k, k < 4096 * created.combinedBlocks ∧ changed[k]? ≠ created.file[k]?) →
        ∃ e, rVerityHashVerify sha256 changed n created.digest.bytes salt = .error e := by
  cases @verityCreateOrVerifyHash_early sha256 salt file false n with
  | inl hearly =>
    obtain ⟨e, hfail, hover, hlarge⟩ := hearly
    exact Or.inl ⟨hlarge hn, e, hfail, hover⟩
  | inr hlevels =>
    obtain ⟨hpos, hsmall, levels, stop, hlayout, hstop, hroom⟩ := hlevels
    have hone := one_of_no_levels hpos hsmall hlayout
    obtain ⟨hstacked, hcount⟩ := @hashLevels_spec sha256 salt n hpos hsmall levels stop hlayout
    have hread : (readAt file (0 * 4096) (4096 * n)).length = 4096 * n := by
      rw [Nat.zero_mul]
      exact length_readAt_of_le (by omega)
    have heq := @verityCreateOrVerifyHash_eq sha256 salt file false n stop levels hsmall
      hlayout hstop hone
    cases @hashEachLevel_create sha256 salt file n stop n 0 levels ⟨List.replicate 32 0, rfl⟩
        hstacked (by omega) hread
        (Or.inl (by omega)) stop (by omega) (Nat.le_refl _) with
    | inl hover =>
      obtain ⟨e, hfail, hover, hbound⟩ := hover
      rw [hfail] at heq
      exact Or.inl ⟨by omega, e, heq, hover⟩
    | inr hdone =>
      obtain ⟨file', d, hrun, hfits, hhashed, hkept⟩ := hdone
      rw [hrun] at heq
      by_cases htop : topBlock 0 levels * 4096 < 2 ^ 63
      · have hdata : readAt file' 0 (4096 * n) = readAt file 0 (4096 * n) := by
          rw [Nat.zero_mul] at hread
          exact hkept 0 (4096 * n) hread (Or.inl (by omega))
        have hreadable : (readAt file' (0 * 4096) (4096 * n)).length = 4096 * n := by
          rw [Nat.zero_mul] at hread ⊢
          rw [hdata, hread]
        have htopread : topBlock 0 levels * 4096 + 4096 ≤ file'.length := by
          obtain ⟨habove, -⟩ := hhashed.above hstacked hreadable
          have hlong := congrArg List.length habove
          rw [length_above _ _ _ (by rw [hreadable, verityTree_blockSize]), hcount, length_readAt,
            verityTree_blockSize] at hlong
          omega
        have hroot : verityCreateOrVerifyHash sha256 salt false file n =
            .ok ⟨file', stop, sha256 (salt ++ readAt file' (topBlock 0 levels * 4096) 4096)⟩ := by
          rw [heq]
          change Except.bind (createOrVerify sha256 salt false false file' d
            (topBlock 0 levels) 0 1) _ = _
          rw [createOrVerify_root htop, if_pos htopread]
          rfl
        rw [Nat.zero_mul] at hreadable
        have hverified : VerifiedFile sha256 salt file' n
            (sha256 (salt ++ readAt file' (topBlock 0 levels * 4096) 4096)).bytes levels stop :=
          ⟨hpos, hsmall, hlayout, hreadable, hhashed, htopread, rfl⟩
        refine Or.inr ⟨_, levels, hroot, hlayout, hdata, hstacked, hstacked.disjoint.1, hhashed,
          rVerityHashVerify_ok hverified hstop hfits htop, ?_⟩
        intro changed hapart hchange
        cases hverify : rVerityHashVerify sha256 changed n
            (sha256 (salt ++ readAt file' (topBlock 0 levels * 4096) 4096)).bytes salt with
        | error e => exact ⟨e, rfl⟩
        | ok _ =>
          obtain ⟨levels', stop', hverified'⟩ := rVerityHashVerify_inv hverify
          obtain ⟨k, hk, hne⟩ := hchange
          have hsame := congrArg (fun bytes => bytes[k]?) (hverified.same_area hverified' hapart)
          simp only [getElem?_readAt, if_pos hk, Nat.zero_add] at hsame
          exact absurd hsame hne
      · obtain ⟨e, hfail, hover⟩ :=
          @createOrVerify_overflow sha256 salt file' d false (topBlock 0 levels) 0 1
          (fun hfits => htop hfits.1) false (Or.inr rfl)
        have hlow : topBlock 0 levels * 4096 ≤ stop * 4096 :=
          Nat.mul_le_mul_right _ (topBlock_le hstacked (by omega))
        refine Or.inl ⟨by omega, e, ?_, hover⟩
        unfold rVerityHashCreate
        rw [heq]
        change Except.bind (createOrVerify sha256 salt false false file' d (topBlock 0 levels) 0 1)
          _ = _
        exact congrArg (Except.bind · _) hfail

section TwoBlocks

variable {sha256 : List UInt8 → Digest} {salt first second : List UInt8}

/-- The hash block of two data blocks. -/
def hashBlockOfTwo (sha256 : List UInt8 → Digest) (salt first second : List UInt8) : List UInt8 :=
  (sha256 (salt ++ first)).bytes ++ (sha256 (salt ++ second)).bytes ++ List.replicate 4032 0

lemma length_hashBlockOfTwo : (hashBlockOfTwo sha256 salt first second).length = 4096 := by
  unfold hashBlockOfTwo
  rw [List.length_append, List.length_append, (sha256 _).size, (sha256 _).size,
    List.length_replicate]
  rfl

lemma readAt_left (hfirst : first.length = 4096) (rest : List UInt8) :
    readAt (first ++ rest) 0 4096 = first := by
  have h := readAt_append_right [] first rest
  rwa [hfirst] at h

lemma readAt_middle (hfirst : first.length = 4096) (hsecond : second.length = 4096)
    (rest : List UInt8) :
    readAt (first ++ second ++ rest) 4096 4096 = second := by
  have h := readAt_append_right first second rest
  rwa [hfirst, hsecond] at h

lemma overwrite_behind {file bytes : List UInt8} {pos : Nat} (h : file.length = pos) :
    overwrite 0 file pos bytes = file ++ bytes := by
  rw [← h, overwrite_at_end]

/-- The digests of the blocks are written behind them, and the hash block is filled up. -/
lemma hashBlocks_two (hfirst : first.length = 4096) (hsecond : second.length = 4096)
    (digest : Digest) :
    hashBlocks sha256 salt false true 1 2 ⟨first ++ second, 0, 8192, digest⟩ =
      .ok ⟨first ++ second ++ hashBlockOfTwo sha256 salt first second, 8192, 12288,
        sha256 (salt ++ second)⟩ := by
  have hlen : (first ++ second).length = 8192 := by
    rw [List.length_append, hfirst, hsecond]
  have hlen' : (first ++ second ++ (sha256 (salt ++ first)).bytes).length = 8224 := by
    rw [List.length_append, hlen, (sha256 _).size]
    rfl
  have hlen'' :
      (first ++ second ++ (sha256 (salt ++ first)).bytes ++
      (sha256 (salt ++ second)).bytes).length = 8256 := by
    rw [List.length_append, hlen', (sha256 _).size]
    rfl
  have hentries : hashEntries sha256 salt false true 128 2 4096 ⟨first ++ second, 0, 8192, digest⟩ =
      .ok (0, 4032, ⟨first ++ second ++ (sha256 (salt ++ first)).bytes ++
        (sha256 (salt ++ second)).bytes, 8192, 8256,
        sha256 (salt ++ second)⟩) := by
    rw [hashEntries_create_step 127 1 4096, if_pos (by omega), readAt_left hfirst,
      overwrite_behind hlen]
    change hashEntries sha256 salt false true (126 + 1) (0 + 1) 4064
      ⟨first ++ second ++ (sha256 (salt ++ first)).bytes, 4096, 8224, _⟩ = _
    rw [hashEntries_create_step 126 0 4064, if_pos (by omega), readAt_middle hfirst hsecond,
      overwrite_behind hlen']
    rfl
  rw [hashBlocks_last (by decide) hentries]
  unfold spareArea hashBlockOfTwo
  rw [if_neg (by decide), overwrite_behind hlen'', List.append_assoc (first ++ second),
    List.append_assoc (first ++ second)]

/-- Of two blocks a tree with one hash block is made. -/
lemma rVerityHashCreate_two (hfirst : first.length = 4096) (hsecond : second.length = 4096) :
    rVerityHashCreate sha256 (first ++ second) 2 salt =
      .ok ⟨first ++ second ++ hashBlockOfTwo sha256 salt first second, 3,
        sha256 (salt ++ hashBlockOfTwo sha256 salt first second)⟩ := by
  have hlevels : hashLevels 2 = .ok ([⟨2, 1⟩], 3) := by decide
  have hlen : (first ++ second ++ hashBlockOfTwo sha256 salt first second).length = 12288 := by
    rw [List.length_append, List.length_append, hfirst, hsecond, length_hashBlockOfTwo]
  have htop : readAt (first ++ second ++ hashBlockOfTwo sha256 salt first second) (2 * 4096) 4096 =
      hashBlockOfTwo sha256 salt first second := by
    have h := readAt_append_right (first ++ second) (hashBlockOfTwo sha256 salt first second) []
    rwa [List.append_nil, List.length_append, hfirst, hsecond, length_hashBlockOfTwo] at h
  have heach : hashEachLevel sha256 salt false (first ++ second) ⟨List.replicate 32 0, rfl⟩ 0
      2 [⟨2, 1⟩] =
      .ok (first ++ second ++ hashBlockOfTwo sha256 salt first second,
        sha256 (salt ++ second)) := by
    rw [hashEachLevel, createOrVerify_fits (by decide) (by decide) (by decide), verityTree_parents]
    change Except.bind (hashBlocks sha256 salt false true 1 2 ⟨first ++ second, 0, 8192, _⟩) _ = _
    rw [hashBlocks_two hfirst hsecond]
    rfl
  unfold rVerityHashCreate
  rw [verityCreateOrVerifyHash_eq (by decide) hlevels (by decide) (by simp), heach]
  change Except.bind (createOrVerify sha256 salt false false _ _ 2 0 1) _ = _
  rw [createOrVerify_root (by decide), if_pos (by dsimp only; omega), htop]
  rfl

end TwoBlocks

section Sample

/-- What SHA256 is for a salt of 32 bytes 0x5a in front of blocks of zeros, of ones (also with a two
in front of them) and of threes, of the first two encrypted as sectors with a key of 32 bytes 0x3c,
and of the hash blocks of the two and of the encrypted two. -/
def sampleSha256 (input : List UInt8) : Digest :=
  match (input.drop 32).head? with
  | some 0 =>
    ⟨[0xa9, 0xa0, 0x3b, 0x28, 0x56, 0x4e, 0x47, 0x24, 0xd7, 0xff, 0xc0, 0xb8, 0x3a,
      0xcd, 0xb9, 0xe9,
      0xf7, 0x26, 0xe3, 0xed, 0xb9, 0xce, 0xec, 0x32, 0xe5, 0xd4, 0x7b, 0x79, 0x8e, 0xe1,
        0x53, 0x89], rfl⟩
  | some 1 =>
    ⟨[0x70, 0xd4, 0x67, 0x90, 0x76, 0x0a, 0xf7, 0x64, 0xd7, 0xe2, 0x65, 0x7b, 0x4b,
      0x90, 0x3a, 0x97,
      0x99, 0x32, 0x54, 0xe9, 0xd6, 0xf1, 0x47, 0x5c, 0x95, 0x7c, 0x77, 0x0e, 0x62, 0x75,
        0xee, 0xdd], rfl⟩
  | some 2 =>
    ⟨[0x75, 0x95, 0x75, 0xa7, 0x2e, 0xa9, 0x3f, 0x98, 0xb3, 0xef, 0xfc, 0x3b, 0x51,
      0x05, 0x17, 0x3a,
      0x9f, 0x79, 0xa2, 0xa0, 0x5c, 0xef, 0x15, 0xd7, 0x21, 0xfe, 0x9a, 0x26, 0x49, 0xaf,
        0x3f, 0xdc], rfl⟩
  | some 3 =>
    ⟨[0x88, 0x57, 0xfe, 0x87, 0xfc, 0xfe, 0x5f, 0x00, 0x90, 0xa5, 0xb5, 0xca, 0x44,
      0x2c, 0x2e, 0x92,
      0xc3, 0xab, 0x75, 0x42, 0x61, 0xff, 0xe9, 0x41, 0x72, 0x39, 0x81, 0x00, 0xd0, 0x34,
        0x3d, 0x22], rfl⟩
  | some 0xf5 =>
    ⟨[0xb4, 0x2f, 0x2f, 0x2f, 0x1d, 0x4c, 0xb5, 0xe0, 0xf8, 0x32, 0x40, 0xe9, 0xc2,
      0x9a, 0x07, 0x8c,
      0x70, 0x8a, 0xe5, 0x52, 0x0c, 0xaf, 0xd4, 0x15, 0x0b, 0x81, 0xa4, 0x2d, 0x86, 0xb2,
        0xa0, 0x36], rfl⟩
  | some 0xc4 =>
    ⟨[0x7a, 0xe6, 0xef, 0x57, 0xf4, 0x03, 0x1d, 0x40, 0x05, 0x22, 0x6d, 0x40, 0x40,
      0xa6, 0x36, 0xf3,
      0xe5, 0x1b, 0x71, 0x83, 0x83, 0x36, 0x8e, 0xf3, 0xea, 0xd5, 0xc5, 0x67, 0xda, 0xd3,
        0xb4, 0x11], rfl⟩
  | some 0xb4 =>
    ⟨[0x8d, 0x6f, 0x40, 0x7e, 0x0b, 0x23, 0xcd, 0x77, 0xdf, 0xf3, 0x41, 0x58, 0x90,
      0x01, 0x22, 0xee,
      0x32, 0x9b, 0x42, 0xf7, 0x19, 0xf0, 0x10, 0x3d, 0x61, 0x06, 0x1e, 0xdd, 0x7a, 0x2d,
        0x63, 0x76], rfl⟩
  | _ =>
    ⟨[0xaf, 0x4f, 0x60, 0x7b, 0x5a, 0xeb, 0xf2, 0x47, 0xba, 0xc3, 0xc9, 0xed, 0x03,
      0xe2, 0x8d, 0xa0,
      0x73, 0x47, 0x9d, 0x19, 0xd6, 0xda, 0x95, 0x3d, 0xb2, 0xd7, 0xe1, 0xa7, 0x16, 0x6e,
        0xd8, 0xc2], rfl⟩

def sampleSalt : List UInt8 := List.replicate 32 0x5a

def filledBlock (b : UInt8) : List UInt8 := List.replicate 4096 b

def sampleHashBlock : List UInt8 := hashBlockOfTwo sampleSha256 sampleSalt (filledBlock 0)
    (filledBlock 1)

/-- The second block with another first byte. -/
def changedBlock : List UInt8 := 2 :: List.replicate 4095 1

lemma length_filledBlock (b : UInt8) : (filledBlock b).length = 4096 := List.length_replicate

lemma length_changedBlock : changedBlock.length = 4096 := by
  unfold changedBlock
  rw [List.length_cons, List.length_replicate]

lemma rVerityHashCreate_sample : rVerityHashCreate sampleSha256
    (filledBlock 0 ++ filledBlock 1) 2 sampleSalt =
    .ok ⟨filledBlock 0 ++ filledBlock 1 ++ sampleHashBlock, 3,
      sampleSha256 (sampleSalt ++ sampleHashBlock)⟩ :=
  rVerityHashCreate_two (length_filledBlock 0) (length_filledBlock 1)

/-- The blocks of a file of three. -/
lemma isBlock_of_three {first second third block : List UInt8} (hfirst : first.length = 4096)
    (hsecond : second.length = 4096) (hthird : third.length = 4096)
    (h : IsBlock (first ++ second ++ third) block) :
    block = first ∨ block = second ∨ block = third := by
  obtain ⟨i, hi, rfl⟩ := h
  rw [List.length_append, List.length_append, hfirst, hsecond, hthird] at hi
  have hcases : i = 0 ∨ i = 1 ∨ i = 2 := by omega
  rcases hcases with rfl | rfl | rfl
  · rw [List.append_assoc]
    exact Or.inl (readAt_left hfirst _)
  · exact Or.inr (Or.inl (readAt_middle hfirst hsecond _))
  · have h := readAt_append_right (first ++ second) third []
    rw [List.append_nil, List.length_append, hfirst, hsecond, hthird] at h
    exact Or.inr (Or.inr h)

lemma apart_changed : (verityTree sampleSha256 sampleSalt).Apart
    (IsBlock (filledBlock 0 ++ filledBlock 1 ++ sampleHashBlock))
    (IsBlock (filledBlock 0 ++ changedBlock ++ sampleHashBlock)) := by
  intro x y hx hy hsame
  change (sampleSha256 (sampleSalt ++ x)).bytes = (sampleSha256 (sampleSalt ++ y)).bytes at hsame
  rcases isBlock_of_three (length_filledBlock 0) (length_filledBlock 1) length_hashBlockOfTwo
    hx with rfl | rfl | rfl <;>
    rcases isBlock_of_three (length_filledBlock 0) length_changedBlock length_hashBlockOfTwo
      hy with rfl | rfl | rfl
  all_goals first
    | rfl
    | exact absurd hsame (by decide)

/-- Two blocks are verified, and no longer when one byte of them was changed. -/
theorem verity_create_verify_two_blocks :
    1 ≤ 2 ∧ 4096 * 2 ≤ (filledBlock 0 ++ filledBlock 1).length ∧
    rVerityHashVerify sampleSha256 (filledBlock 0 ++ filledBlock 1 ++ sampleHashBlock) 2
      (sampleSha256 (sampleSalt ++ sampleHashBlock)).bytes sampleSalt = .ok () ∧
    ∃ e, rVerityHashVerify sampleSha256 (filledBlock 0 ++ changedBlock ++ sampleHashBlock) 2
      (sampleSha256 (sampleSalt ++ sampleHashBlock)).bytes sampleSalt = .error e := by
  have hlen : 4096 * 2 ≤ (filledBlock 0 ++ filledBlock 1).length := by
    simp [length_filledBlock]
  refine ⟨by omega, hlen, ?_⟩
  rcases verity_create_verify sampleSha256 sampleSalt (filledBlock 0 ++ filledBlock 1) 2
    (by omega) hlen with
    h | ⟨created, _, hcreated, -, -, -, -, -, hverified, hchanged⟩
  · exact absurd h.1 (by decide)
  rw [rVerityHashCreate_sample] at hcreated
  obtain rfl := Except.ok.inj hcreated
  refine ⟨hverified, hchanged _ apart_changed ⟨4096, by decide, ?_⟩⟩
  have hbyte : ∀ middle rest : List UInt8, (filledBlock 0 ++ middle ++ rest)[4096]? =
      (middle ++ rest)[0]? := by
    intro middle rest
    rw [List.append_assoc, List.getElem?_append_right (Nat.le_of_eq (length_filledBlock 0)),
      length_filledBlock]
  rw [hbyte, hbyte]
  decide

end Sample

end RaucUpdate
