import RaucUpdate.Model.HashIndex
import RaucUpdate.Proofs.BootRawFallback
import Mathlib.Data.Set.Function

/-!
# The copy by hash index and the raw copy

Up to a chunk the target holds the image, behind it what it held before. A chunk that an index
without hash check gives out was written by this copy or stands in the image.
-/

namespace RaucUpdate

open Library Prog

section Contents

variable {image : ByteFile} {old : Nat → UInt8} {c : Nat}

/-- The content when the chunks before a position are those of the image. -/
def mixed (image : ByteFile) (old : Nat → UInt8) (c : Nat) : Nat → UInt8 := fun k =>
  if k < chunkSize * c then image.bytes k else old k

lemma mixed_zero (image : ByteFile) (old : Nat → UInt8) : mixed image old 0 = old := by
  funext k
  exact if_neg (by omega)

lemma length_chunkAt (file : ByteFile) (i : Nat) : (file.chunkAt i).length = chunkSize := by
  unfold ByteFile.chunkAt
  rw [List.length_map, List.length_range]

lemma getElem?_chunkAt (file : ByteFile) (i : Nat) {k : Nat} (hk : k < chunkSize) :
    (file.chunkAt i)[k]? = some (file.bytes (chunkSize * i + k)) := by
  unfold ByteFile.chunkAt
  rw [List.getElem?_map, List.getElem?_range hk]
  rfl

lemma chunkAt_congr {file file' : ByteFile} {i : Nat}
    (h : ∀ k < chunkSize, file.bytes (chunkSize * i + k) = file'.bytes (chunkSize * i + k)) :
    file.chunkAt i = file'.chunkAt i := by
  unfold ByteFile.chunkAt
  apply List.map_congr_left
  intro k hk
  exact h k (List.mem_range.mp hk)

/-- Chunks are replaced as a whole. -/
lemma chunkAt_mixed (size i : Nat) :
    ByteFile.chunkAt ⟨size, mixed image old c⟩ i =
      if i < c then image.chunkAt i else ByteFile.chunkAt ⟨size, old⟩ i := by
  split_ifs with hi
  · apply chunkAt_congr
    intro k hk
    apply if_pos
    unfold chunkSize at *
    omega
  · apply chunkAt_congr
    intro k hk
    apply if_neg
    unfold chunkSize at *
    omega

lemma writeAt_mixed : writeAt (mixed image old c) (chunkSize * c) (image.chunkAt c) =
    mixed image old (c + 1) := by
  funext k
  by_cases hbelow : k < chunkSize * c
  · rw [writeAt_outside (.inl hbelow)]
    unfold mixed
    rw [if_pos hbelow, if_pos (by unfold chunkSize at *; omega)]
  · by_cases habove : chunkSize * (c + 1) ≤ k
    · rw [writeAt_outside (.inr (by rw [length_chunkAt]; unfold chunkSize at *; omega))]
      unfold mixed
      rw [if_neg hbelow, if_neg (by omega)]
    · have hin : k - chunkSize * c < chunkSize := by
        unfold chunkSize at *
        omega
      have hk : chunkSize * c + (k - chunkSize * c) = k := by omega
      unfold writeAt
      rw [if_pos (by omega), getElem?_chunkAt image c hin, hk, Option.getD_some]
      exact (if_pos (by omega)).symm

/-- A chunk that is already there need not be written. -/
lemma mixed_succ_of_same (size : Nat) (h : image.chunkAt c =
    ByteFile.chunkAt ⟨size, mixed image old c⟩ c) :
    mixed image old (c + 1) = mixed image old c := by
  rw [← writeAt_mixed, h]
  funext k
  unfold writeAt
  split_ifs with hk
  · by_cases hin : k - chunkSize * c < chunkSize
    · rw [getElem?_chunkAt _ c hin, show chunkSize * c + (k - chunkSize * c) = k by omega]
      rfl
    · rw [List.getElem?_eq_none (by rw [length_chunkAt]; omega)]
      rfl
  · rfl

end Contents

section Hashes

lemma hashAt_cons {first : List UInt8} (hfirst : first.length = sha256Len)
    (rest : List UInt8) (i : Nat) :
    hashAt (first ++ rest) (i + 1) = hashAt rest i := by
  unfold hashAt
  have hskip : sha256Len * (i + 1) = first.length + sha256Len * i := by
    rw [hfirst]
    unfold sha256Len
    omega
  rw [hskip, List.drop_append, List.drop_eq_nil_of_le (by omega), List.nil_append]
  congr 2
  omega

lemma hashAt_first {first : List UInt8} (hfirst : first.length = sha256Len) (rest : List UInt8) :
    hashAt (first ++ rest) 0 = first := by
  unfold hashAt
  rw [Nat.mul_zero, List.drop_zero, ← hfirst, List.take_left]

lemma hashAt_flatMap {f : Nat → List UInt8} (hf : ∀ i, (f i).length = sha256Len) (n s i : Nat)
    (hi : i < n) :
    hashAt ((List.range' s n).flatMap f) i = f (s + i) := by
  induction n generalizing s i with
  | zero => omega
  | succ n ih =>
    rw [List.range'_succ, List.flatMap_cons]
    cases i with
    | zero => exact hashAt_first (hf s) _
    | succ i =>
      rw [hashAt_cons (hf s), ih (s + 1) i (by omega)]
      congr 1
      omega

lemma length_flatMap_hashes {f : Nat → List UInt8} (hf : ∀ i, (f i).length = sha256Len)
    (n s : Nat) :
    ((List.range' s n).flatMap f).length = sha256Len * n := by
  induction n generalizing s with
  | zero => rfl
  | succ n ih =>
    rw [List.range'_succ, List.flatMap_cons, List.length_append, hf s, ih]
    unfold sha256Len
    omega

lemma hashAt_take {hashes : List UInt8} {n i : Nat} (hi : i < n) :
    hashAt (hashes.take (sha256Len * n)) i = hashAt hashes i := by
  unfold hashAt
  rw [List.drop_take, List.take_take]
  congr 1
  unfold sha256Len
  omega

end Hashes

section Search

variable {idx : RaucHashIndex} {hash : List UInt8}

lemma firstValid_sound {l : List Nat} {i : Nat} (h : firstValid idx hash l = some i) :
    i ∈ l ∧ hashAt idx.hashes i = hash ∧ i < idx.invalidFrom ∧ idx.invalidBelow ≤ i := by
  induction l with
  | nil => simp [firstValid] at h
  | cons curr rest ih =>
    rw [firstValid] at h
    split_ifs at h with hne hfrom hbelow
    · obtain ⟨hmem, hrest⟩ := ih h
      exact ⟨List.mem_cons_of_mem _ hmem, hrest⟩
    · obtain rfl : curr = i := by simpa using h
      exact ⟨List.mem_cons_self, by simpa using hne, by omega, by omega⟩

/-- A selected chunk has the hash, in the valid region of the table. -/
lemma searchChunk_sound {i : Nat} (h : searchChunk idx hash = .ok i) :
    i ∈ idx.lookup ∧ hashAt idx.hashes i = hash ∧ i < idx.invalidFrom := by
  unfold searchChunk at h
  dsimp only at h
  split at h
  · simp at h
  · split at h
    · simp at h
    · rename_i chunk hvalid
      obtain rfl : chunk = i := by simpa using h
      obtain ⟨hmem, hhash, hfrom, -⟩ := firstValid_sound hvalid
      exact ⟨List.mem_of_mem_take (List.mem_of_mem_drop hmem), hhash, hfrom⟩

lemma length_buildLookup (hashes : List UInt8) :
    (buildLookup hashes).length = hashes.length / sha256Len :=
  length_sortPositions

lemma mem_buildLookup {hashes : List UInt8} {i : Nat} : i ∈ buildLookup hashes ↔
    i < hashes.length / sha256Len :=
  mem_sortPositions

/-- In a table that fits into 32 bits the offsets do not wrap. -/
lemma hashAt_of_small {hashes : List UInt8} {i : Nat} (hsmall : hashes.length < 2 ^ 32)
    (hi : i < hashes.length / sha256Len) :
    (hashes.drop (i * sha256Len % 2 ^ 32)).take sha256Len = hashAt hashes i := by
  unfold hashAt
  have hoffset : i * sha256Len % 2 ^ 32 = sha256Len * i := by
    unfold sha256Len at *
    omega
  rw [hoffset]

lemma ascending_buildLookup {hashes : List UInt8} (hsmall : hashes.length < 2 ^ 32)
    (hash : List UInt8) :
    Ascending (fun i => compare (hashAt hashes ((buildLookup hashes).getD i 0)) hash)
      (hashes.length / sha256Len) := by
  have hsorted :=
    ascending_sortPositions (fun i => (hashes.drop (i * sha256Len % 2 ^ 32)).take sha256Len)
    (hashes.length / sha256Len) hash
  have hentry : ∀ i < hashes.length / sha256Len, (buildLookup hashes).getD i 0 <
      hashes.length / sha256Len := by
    intro i hi
    rw [← length_buildLookup] at hi
    rw [List.getD_eq_getElem?_getD, List.getElem?_eq_getElem hi, Option.getD_some]
    exact mem_buildLookup.mp (List.getElem_mem hi)
  intro i j hij hj
  have hboth := hsorted i j hij hj
  dsimp only at hboth
  rw [show sortPositions _ _ = buildLookup hashes from rfl,
    hashAt_of_small hsmall (hentry i (by omega)),
    hashAt_of_small hsmall (hentry j hj)] at hboth
  exact hboth

/-- A hash of the table is found when the whole table is valid. -/
lemma searchChunk_complete (idx : RaucHashIndex) {k : Nat}
    (hlookup : idx.lookup = buildLookup idx.hashes)
    (hsmall : idx.hashes.length < 2 ^ 32) (hcount : idx.count = idx.hashes.length / sha256Len)
    (hbelow : idx.invalidBelow = 0) (hfrom : idx.count ≤ idx.invalidFrom) (hk : k < idx.count)
    (hhash : hashAt idx.hashes k = hash) : ∃ i, searchChunk idx hash = .ok i := by
  have hlength : idx.lookup.length = idx.count := by rw [hlookup, length_buildLookup, hcount]
  have hmem : k ∈ idx.lookup := by
    rw [hlookup, mem_buildLookup, ← hcount]
    exact hk
  obtain ⟨pos, hpos, hat⟩ := List.mem_iff_getElem.mp hmem
  have hgetD : idx.lookup.getD pos 0 = k := by
    rw [List.getD_eq_getElem?_getD, List.getElem?_eq_getElem hpos, hat]
    rfl
  have hasc := ascending_buildLookup hsmall hash
  rw [← hlookup, ← hcount] at hasc
  obtain ⟨found, hfound⟩ := bisect_complete hasc idx.count 0 (idx.count - 1) (by omega)
    (by omega) (Nat.zero_le pos) (by omega) (by rw [hgetD, hhash]; exact Std.compare_self)
  obtain ⟨heq, -, hle⟩ := bisect_sound hfound
  have hsame : hashAt idx.hashes (idx.lookup.getD found 0) = hash :=
    Std.LawfulEqCmp.compare_eq_iff_eq.mp heq
  obtain ⟨hstart, hstartle⟩ :=
    runStart_same (fun i => hashAt idx.hashes (idx.lookup.getD i 0) == hash)
    (i := found) (by simpa using hsame) (le_refl _) (by simpa using hsame)
  unfold searchChunk
  dsimp only
  rw [hfound]
  dsimp only
  generalize runStart (fun i => hashAt idx.hashes (idx.lookup.getD i 0) == hash) found found =
    middle at *
  have hmiddle : middle < idx.lookup.length := by omega
  rw [List.take_of_length_le (by omega), List.drop_eq_getElem_cons hmiddle]
  have hin : idx.lookup[middle] < idx.count := by
    rw [hcount, ← mem_buildLookup, ← hlookup]
    exact List.getElem_mem hmiddle
  rw [List.getD_eq_getElem?_getD, List.getElem?_eq_getElem hmiddle, Option.getD_some] at hstart
  refine ⟨idx.lookup[middle], ?_⟩
  rw [firstValid, if_neg (by simpa using hstart), if_neg (by omega), if_neg (by omega)]

end Search

section Steps

/-- What is read from the device. -/
def Reading (v : Nat → UInt8) (st : DiskState) : Prop := st.device.cache = v

variable {v v' : Nat → UInt8}

lemma diskStep_reading {effect : CachedDevice UInt8 → CachedDevice UInt8}
    {report : Failure → GError}
    (heffect : ∀ d, d.cache = v → (effect d).cache = v') :
    Triple (Reading v) (diskStep effect report) (fun _ => Reading v') (fun _ => Reading v) := by
  unfold diskStep
  refine triple_bind (Q := fun _ => Reading v) (triple_modify ?_) ?_
  · intro st hst
    exact hst
  intro _
  refine triple_external ?_ ?_ ?_
  · intro st hst
    exact heffect st.device hst
  · intro st hst _
    exact hst
  · intro st hst
    exact hst

lemma calms_diskStep {effect : CachedDevice UInt8 → CachedDevice UInt8}
    {report : Failure → GError} :
    Calms (fun _ => True) (diskStep effect report) (fun _ _ => True) :=
  calms_bind (Q := fun _ _ => True) (calms_modify (fun _ _ => trivial))
    (fun _ => calms_external (fun _ _ => trivial))

/-- A program that changes nothing of what is read, and what it returns. -/
def Looks {α : Type} (v : Nat → UInt8) (p : DiskProg α) (Q : α → Prop) : Prop :=
  Triple (Reading v) p (fun a st => Reading v st ∧ Q a) (fun _ => Reading v)

variable {α β : Type} {Q Q' : α → Prop} {R : β → Prop}

lemma looks_pure {a : α} (ha : Q a) : Looks v (Prog.pure a : DiskProg α) Q :=
  triple_pure (fun _ hst => ⟨hst, ha⟩)

lemma looks_exit {x : Exit GError} : Looks v (exit x : DiskProg α) Q :=
  triple_exit (fun _ hst => hst)

lemma looks_bind {p : DiskProg α} {f : α → DiskProg β} (hp : Looks v p Q)
    (hf : ∀ a, Q a → Looks v (f a) R) :
    Looks v (p >>= f) R :=
  triple_bind hp (fun a => triple_fact (hf a))

lemma looks_idle {report : Failure → GError} {f : Unit → DiskProg β} (hf : Looks v (f ()) R) :
    Looks v (diskStep id report >>= f) R :=
  triple_bind (diskStep_reading (fun _ hd => hd)) (fun _ => hf)

lemma looks_read {f : DiskState → DiskProg β} (hf : ∀ st, Reading v st → Looks v (f st) R) :
    Looks v (read >>= f) R := by
  apply triple_read_bind
  intro st hst
  apply triple_consequence (hf st hst) _ (fun _ _ h => h) (fun _ _ h => h)
  rintro st' rfl
  exact hst

lemma looks_mapError {f : GError → GError} {p : DiskProg α} (hp : Looks v p Q) :
    Looks v (mapError f p) Q :=
  triple_mapError hp (fun _ _ h => h)

lemma looks_weaken {p : DiskProg α} (hp : Looks v p Q) (hQ : ∀ a, Q a → Q' a) : Looks v p Q' :=
  triple_consequence hp (fun _ h => h) (fun a _ h => ⟨h.1, hQ a h.2⟩) (fun _ _ h => h)

lemma looks_attempt {p : DiskProg α} (hp : Looks v p Q) :
    Looks v (attempt p) (fun r => ∀ a, r = .ok a → Q a) := by
  apply triple_consequence (triple_attempt_cases hp) (fun _ h => h) _ (fun _ _ h => h)
  intro r st hr
  cases r with
  | error e => exact ⟨hr, fun a ha => by simp at ha⟩
  | ok b =>
    refine ⟨hr.1, fun a ha => ?_⟩
    obtain rfl : b = a := by simpa using ha
    exact hr.2

lemma Looks.triple_bind {p : DiskProg α} {f : α → DiskProg β} {R : β → DiskState → Prop}
    (hp : Looks v p Q)
    (hf : ∀ a, Q a → Triple (Reading v) (f a) R (fun _ _ => True)) :
      Triple (Reading v) (p >>= f) R (fun _ _ => True) := by
  apply Prog.triple_bind (triple_consequence hp (fun _ h => h) (fun _ _ h => h)
    (fun _ _ _ => trivial))
  intro a
  exact triple_fact (hf a)

end Steps

section Opening

variable {sha256 : List UInt8 → List UInt8} {dev : BlockDevice} {v : Nat → UInt8} {progress : Bool}

/-- The sizes that the code accepts for a file and its index. -/
def Indexable (size : Nat) (indexFile : Option (List UInt8)) : Prop :=
  size ≠ 0 ∧ size / chunkSize ≤ maxUint32 ∧ size % chunkSize = 0 ∧
    match indexFile with
    | some mapped => mapped.length < maxUint32
    | none => sha256Len * (size / chunkSize) < 2 ^ 32

/-- The number of chunks that an index covers. -/
def indexedChunks (size : Nat) (indexFile : Option (List UInt8)) : Nat :=
  match indexFile with
  | some mapped => min (size / chunkSize) (mapped.length / sha256Len)
  | none => size / chunkSize

/-- The hashes of an index that is not read from a file. -/
def hashesOf (sha256 : List UInt8 → List UInt8) (file : ByteFile) : List UInt8 :=
  (List.range' 0 (file.size / chunkSize)).flatMap (fun i => sha256 (file.chunkAt i))

/-- What is known of an index after it was opened. -/
structure Opened (sha256 : List UInt8 → List UInt8) (fd : DataFd) (file : ByteFile)
    (indexFile : Option (List UInt8))
    (idx : RaucHashIndex) : Prop where
  indexable : Indexable file.size indexFile
  dataFd : idx.dataFd = fd
  count : idx.count = indexedChunks file.size indexFile
  hashes : idx.hashes = indexFile.getD (hashesOf sha256 file)
  lookup : idx.lookup = buildLookup idx.hashes
  window : idx.invalidBelow = 0 ∧ idx.invalidFrom = maxUint32
  checked : idx.skipHashCheck = false

lemma readChunk_looks (fd : DataFd) (i : Nat) :
    Looks v (readChunk dev fd i) (fun chunk => chunk = (fd.open dev v).chunkAt i ∧
      chunkSize * (i + 1) ≤ (fd.open dev v).size) := by
  unfold readChunk
  apply looks_idle
  apply looks_read
  intro st hst
  dsimp only
  rw [show st.device.cache = v from hst]
  split_ifs with hsize
  · exact looks_exit
  · exact looks_pure ⟨rfl, by omega⟩

lemma getChunkCount_looks (size : Nat) :
    Looks v (getChunkCount size) (fun count => count = size / chunkSize ∧ size ≠ 0 ∧
      count ≤ maxUint32 ∧
      size % chunkSize = 0) := by
  unfold getChunkCount
  apply looks_idle
  apply looks_idle
  split_ifs with hempty hlarge hwhole
  · exact looks_exit
  · exact looks_exit
  · exact looks_exit
  · exact looks_pure ⟨rfl, hempty, by omega, by omega⟩

lemma hashLoop_looks (fd : DataFd) (left i : Nat) :
    Looks v (hashLoop sha256 dev fd left i) (fun hashes => hashes =
      (List.range' i left).flatMap (fun i => sha256 ((fd.open dev v).chunkAt i))) := by
  induction left generalizing i with
  | zero =>
    unfold hashLoop
    apply looks_pure
    rw [List.range'_zero, List.flatMap_nil]
  | succ left ih =>
    unfold hashLoop
    apply looks_bind (readChunk_looks fd i)
    intro chunk hchunk
    apply looks_bind (ih (i + 1))
    intro rest hrest
    apply looks_pure
    rw [List.range'_succ, List.flatMap_cons, ← hchunk.1, ← hrest]

lemma rHashIndexOpen_looks (fd : DataFd) (indexFile : Option (List UInt8)) :
    Looks v (rHashIndexOpen sha256 dev progress fd indexFile)
      (Opened sha256 fd (fd.open dev v) indexFile) := by
  unfold rHashIndexOpen
  apply looks_read
  intro st hst
  rw [show st.device.cache = v from hst]
  apply looks_bind (getChunkCount_looks _)
  rintro count ⟨rfl, hempty, hlarge, hwhole⟩
  cases indexFile with
  | some mapped =>
    apply looks_idle
    split_ifs with hlength hshort
    · exact looks_exit
    · apply looks_pure
      refine ⟨⟨hempty, hlarge, hwhole, by simpa using hlength⟩, rfl, ?_, rfl, rfl, ⟨rfl, rfl⟩, rfl⟩
      exact (Nat.min_eq_right (Nat.le_of_lt hshort)).symm
    · apply looks_pure
      refine ⟨⟨hempty, hlarge, hwhole, by simpa using hlength⟩, rfl, ?_, rfl, rfl, ⟨rfl, rfl⟩, rfl⟩
      exact (Nat.min_eq_left (Nat.le_of_not_lt hshort)).symm
  | none =>
    dsimp only
    unfold hashFile
    apply looks_bind (Q := fun hashes => hashes = hashesOf sha256 (fd.open dev v) ∧
      sha256Len * ((fd.open dev v).size / chunkSize) < 2 ^ 32)
    · apply looks_idle
      split_ifs with hbuffer hprogress
      · exact looks_exit
      · exact looks_exit
      · apply looks_weaken (hashLoop_looks fd _ 0)
        rintro hashes rfl
        exact ⟨rfl, by omega⟩
    · rintro hashes ⟨rfl, hbuffer⟩
      exact looks_pure ⟨⟨hempty, hlarge, hwhole, hbuffer⟩, rfl, rfl, rfl, rfl, ⟨rfl, rfl⟩, rfl⟩

lemma rHashIndexOpenSlot_looks (slot : RaucSlot) (fd : DataFd) (indexFile : Option (List UInt8)) :
    Looks v (rHashIndexOpenSlot sha256 dev progress slot fd indexFile) (fun idx =>
      Opened sha256 fd (fd.open dev v) indexFile idx ∧ slot.dataDirectory ≠ none) := by
  unfold rHashIndexOpenSlot
  apply looks_idle
  cases hdir : slot.dataDirectory with
  | none => exact looks_exit
  | some dir =>
    apply looks_idle
    apply looks_weaken (rHashIndexOpen_looks fd indexFile)
    intro idx hidx
    exact ⟨hidx, by simp⟩

end Opening

section Copying

def AdaptiveCopy.source (job : AdaptiveCopy) : ByteFile := .ofContent job.content

/-- Everything that is read during the copy, as it is at its beginning. -/
def AdaptiveCopy.files (job : AdaptiveCopy) (old : Nat → UInt8) : List ByteFile :=
  job.source :: ⟨job.dev.size, old⟩ :: (job.seed.map SeedSlot.data).toList

def SeenChunks (job : AdaptiveCopy) (old : Nat → UInt8) : Set (List UInt8) :=
  {chunk | chunk = zeroChunk ∨
    ∃ file ∈ job.files old, ∃ i, chunkSize * (i + 1) ≤ file.size ∧ chunk = file.chunkAt i}

/-- What the copy relies on: the constant is the hash of zeros, hashes have 32 bytes, and no two of
the chunks that are read have the same one. -/
structure ChunkHash (sha256 : List UInt8 → List UInt8) (job : AdaptiveCopy) (old : Nat → UInt8) :
    Prop where
  zero : sha256 zeroChunk = rHashIndexZeroChunk
  length : ∀ chunk, chunk.length = chunkSize → (sha256 chunk).length = sha256Len
  injective : Set.InjOn sha256 (SeenChunks job old)

/-- The entries of an index are the hashes of the chunks of the image. -/
def Describes (sha256 : List UInt8 → List UInt8) (image : ByteFile) (idx : RaucHashIndex) : Prop :=
  ∀ i ∈ idx.lookup, chunkSize * (i + 1) ≤ image.size → hashAt idx.hashes i =
    sha256 (image.chunkAt i)

/-- An index whose chunks can be used after so many of them were written: without a check of the
hashes it describes the image, and of the target it covers only what was written. -/
def GoodSource (sha256 : List UInt8 → List UInt8) (job : AdaptiveCopy) (old : Nat → UInt8) (c : Nat)
    (idx : RaucHashIndex) : Prop :=
  (idx.skipHashCheck = true → Describes sha256 job.source idx) ∧
    ((idx.dataFd = .target ∧ (idx.skipHashCheck = true → idx.invalidFrom ≤ c)) ∨
      ∃ file ∈ job.files old, idx.dataFd = .file file ∧
        (idx.skipHashCheck = true → file = job.source))

variable {sha256 : List UInt8 → List UInt8} {job : AdaptiveCopy} {old : Nat → UInt8} {c : Nat}

lemma GoodSource.succ {idx : RaucHashIndex} (h : GoodSource sha256 job old c idx) :
    GoodSource sha256 job old (c + 1) idx := by
  refine ⟨h.1, ?_⟩
  rcases h.2 with ⟨hfd, hwindow⟩ | hfile
  · exact .inl ⟨hfd, fun hskip => Nat.le_succ_of_le (hwindow hskip)⟩
  · exact .inr hfile

lemma goodSources_updateLimits {sources : List RaucHashIndex}
    (h : ∀ idx ∈ sources, GoodSource sha256 job old c idx) :
    ∀ idx ∈ updateLimits c sources, GoodSource sha256 job old (c + 1) idx := by
  intro idx hidx
  unfold updateLimits at hidx
  split at hidx
  · rename_i written before rest
    rcases List.mem_cons.mp hidx with rfl | hidx
    · obtain ⟨hdescribes, hfd⟩ := h written List.mem_cons_self
      refine ⟨hdescribes, ?_⟩
      rcases hfd with ⟨hfd, -⟩ | hfile
      · exact .inl ⟨hfd, fun _ => le_refl _⟩
      · exact .inr hfile
    · rcases List.mem_cons.mp hidx with rfl | hidx
      · exact (h before (by simp)).succ
      · exact (h idx (by simp [hidx])).succ
  · exact (h idx hidx).succ

/-- Whatever an index gives out was there in the beginning, and is what its descriptor refers to. -/
lemma seen_of_fd {idx : RaucHashIndex} (h : GoodSource sha256 job old c idx)
    (hc : chunkSize * c ≤ job.source.size) {i : Nat}
    (hsize : chunkSize * (i + 1) ≤ (idx.dataFd.open job.dev (mixed job.source old c)).size) :
    (idx.dataFd.open job.dev (mixed job.source old c)).chunkAt i ∈ SeenChunks job old := by
  rcases h.2 with ⟨hfd, -⟩ | ⟨file, hfile, hfd, -⟩
  · rw [hfd] at hsize ⊢
    change chunkSize * (i + 1) ≤ job.dev.size at hsize
    change ByteFile.chunkAt ⟨job.dev.size, mixed job.source old c⟩ i ∈ _
    rw [chunkAt_mixed]
    split_ifs with hi
    · refine .inr ⟨job.source, by simp [AdaptiveCopy.files], i, ?_, rfl⟩
      unfold chunkSize at *
      omega
    · exact .inr ⟨⟨job.dev.size, old⟩, by simp [AdaptiveCopy.files], i, hsize, rfl⟩
  · rw [hfd] at hsize ⊢
    exact .inr ⟨file, hfile, i, hsize, rfl⟩

lemma hash_of_unchecked {idx : RaucHashIndex} (h : GoodSource sha256 job old c idx)
    (hc : chunkSize * c ≤ job.source.size)
    (hskip : idx.skipHashCheck = true) {i : Nat} (hmem : i ∈ idx.lookup)
    (hfrom : i < idx.invalidFrom)
    (hsize : chunkSize * (i + 1) ≤ (idx.dataFd.open job.dev (mixed job.source old c)).size) :
    sha256 ((idx.dataFd.open job.dev (mixed job.source old c)).chunkAt i) =
      hashAt idx.hashes i := by
  rcases h.2 with ⟨hfd, hwindow⟩ | ⟨file, -, hfd, himage⟩
  · have hi : i < c := lt_of_lt_of_le hfrom (hwindow hskip)
    rw [hfd]
    change sha256 (ByteFile.chunkAt ⟨job.dev.size, mixed job.source old c⟩ i) = _
    rw [chunkAt_mixed, if_pos hi, h.1 hskip i hmem (by unfold chunkSize at *; omega)]
  · rw [hfd, himage hskip] at hsize ⊢
    exact (h.1 hskip i hmem hsize).symm

lemma rHashIndexGetChunk_looks {idx : RaucHashIndex} (h : GoodSource sha256 job old c idx)
    (hc : chunkSize * c ≤ job.source.size) (hash : List UInt8) :
    Looks (mixed job.source old c) (rHashIndexGetChunk sha256 job.dev idx hash)
      (fun chunk => chunk ∈ SeenChunks job old ∧ sha256 chunk = hash) := by
  unfold rHashIndexGetChunk
  split_ifs with hcount
  · exact looks_exit
  · cases hsearch : searchChunk idx hash with
    | error e => exact looks_exit
    | ok i =>
      obtain ⟨hmem, hhash, hfrom⟩ := searchChunk_sound hsearch
      apply looks_bind (readChunk_looks idx.dataFd i)
      rintro chunk ⟨hchunk, hsize⟩
      split_ifs with hcheck
      · exact looks_exit
      · apply looks_pure
        refine ⟨hchunk ▸ seen_of_fd h hc hsize, ?_⟩
        cases hskip : idx.skipHashCheck with
        | false => simpa [hskip] using hcheck
        | true => rw [hchunk, hash_of_unchecked h hc hskip hmem hfrom hsize, hhash]

lemma getChunkFrom_looks {sources : List RaucHashIndex}
    (h : ∀ idx ∈ sources, GoodSource sha256 job old c idx)
    (hc : chunkSize * c ≤ job.source.size) (hash : List UInt8) :
    Looks (mixed job.source old c) (getChunkFrom sha256 job hash sources)
      (fun found => ∀ chunk, found = some chunk → chunk ∈ SeenChunks job old ∧
        sha256 chunk = hash) := by
  induction sources with
  | nil => exact looks_pure (fun chunk hchunk => by simp at hchunk)
  | cons idx rest ih =>
    unfold getChunkFrom
    apply looks_bind (looks_attempt (rHashIndexGetChunk_looks (h idx List.mem_cons_self) hc hash))
    intro r hr
    cases r with
    | error e => exact ih (fun idx hidx => h idx (List.mem_cons_of_mem _ hidx))
    | ok chunk =>
      apply looks_pure
      intro chunk' hchunk
      obtain rfl : chunk = chunk' := by simpa using hchunk
      exact hr chunk rfl

/-- The chunk that is found is the one of the image. -/
lemma findChunk_looks (hsha : ChunkHash sha256 job old) {sources : List RaucHashIndex}
    (h : ∀ idx ∈ sources, GoodSource sha256 job old c idx)
    (hc : chunkSize * (c + 1) ≤ job.source.size) :
    Looks (mixed job.source old c) (findChunk sha256 job sources (sha256 (job.source.chunkAt c)))
      (fun chunk => chunk = job.source.chunkAt c) := by
  have himage : job.source.chunkAt c ∈ SeenChunks job old :=
    .inr ⟨job.source, by simp [AdaptiveCopy.files], c, hc, rfl⟩
  unfold findChunk
  apply looks_bind (Q := fun found => ∀ chunk, found = some chunk → chunk = job.source.chunkAt c)
  · unfold zeroOrChunkFrom
    split_ifs with hzero
    · apply looks_pure
      intro chunk hchunk
      obtain rfl : zeroChunk = chunk := by simpa using hchunk
      exact hsha.injective (.inl rfl) himage (hsha.zero.trans hzero.symm)
    · apply looks_weaken (getChunkFrom_looks h (by unfold chunkSize at *; omega) _)
      intro found hfound chunk hchunk
      obtain ⟨hseen, hsame⟩ := hfound chunk hchunk
      exact hsha.injective hseen himage hsame
  · intro found hfound
    cases found with
    | none => exact looks_exit
    | some chunk => exact looks_pure (hfound chunk rfl)

lemma rPwriteLazy_reading {data : List UInt8} (hdata : data = job.source.chunkAt c) :
    Triple (Reading (mixed job.source old c)) (rPwriteLazy job data c)
      (fun _ => Reading (mixed job.source old (c + 1))) (fun _ _ => True) := by
  have hread := looks_mapError (f := GError.prefixed "Failed to read existing data: ")
    (@readChunk_looks job.dev (mixed job.source old c) .target c)
  unfold rPwriteLazy
  refine hread.triple_bind (fun existing hexisting => ?_)
  split_ifs with hsame
  · apply triple_pure
    intro st hst
    rw [hexisting.1, hdata] at hsame
    rw [mixed_succ_of_same job.dev.size hsame]
    exact hst
  · apply triple_consequence (diskStep_reading (v := mixed job.source old c) ?_) (fun _ h => h)
      (fun _ _ h => h)
      (fun _ _ _ => trivial)
    intro d hd
    change writeAt d.cache (chunkSize * c) data = _
    rw [hd, hdata, writeAt_mixed]

lemma copyChunks_reading (hsha : ChunkHash sha256 job old) (hashes : List UInt8) (left : Nat)
    {sources : List RaucHashIndex}
    (h : ∀ idx ∈ sources, GoodSource sha256 job old c idx)
    (hleft : chunkSize * (c + left) ≤ job.source.size)
    (hhashes : ∀ i < c + left, hashAt hashes i = sha256 (job.source.chunkAt i)) :
    Triple (Reading (mixed job.source old c)) (copyChunks sha256 job hashes left c sources)
      (fun _ => Reading (mixed job.source old (c + left))) (fun _ _ => True) := by
  induction left generalizing c sources with
  | zero => exact triple_pure (fun _ hst => hst)
  | succ left ih =>
    unfold copyChunks
    rw [hhashes c (by omega)]
    have hfind := findChunk_looks hsha h (by unfold chunkSize at *; omega)
    apply hfind.triple_bind
    intro chunk hchunk
    apply triple_bind (rPwriteLazy_reading hchunk)
    intro _
    have hnext := ih (goodSources_updateLimits h) (by rwa [Nat.add_right_comm, Nat.add_assoc]) (by
      intro i hi
      exact hhashes i (by omega))
    rwa [Nat.add_right_comm, Nat.add_assoc] at hnext

end Copying

section WholeCopy

variable {sha256 : List UInt8 → List UInt8} {job : AdaptiveCopy} {old : Nat → UInt8}
  {progress : Bool}

/-- Every entry of the index in the bundle is the hash of the chunk at its position. -/
def IndexMatches (sha256 : List UInt8 → List UInt8) (job : AdaptiveCopy) : Prop :=
  ∀ mapped, job.imageIndex = some mapped → ∀ i < mapped.length / sha256Len, chunkSize * (i + 1) ≤
    job.source.size →
    hashAt mapped i = sha256 (job.source.chunkAt i)

def AdaptiveCopy.indexed (job : AdaptiveCopy) : Nat :=
  indexedChunks job.content.length job.imageIndex

lemma indexedChunks_le (size : Nat) (indexFile : Option (List UInt8)) :
    indexedChunks size indexFile ≤ size / chunkSize := by
  unfold indexedChunks
  cases indexFile with
  | none => exact le_refl _
  | some mapped => exact Nat.min_le_left _ _

lemma indexed_fits (job : AdaptiveCopy) : chunkSize * job.indexed ≤ job.source.size := by
  have hle := indexedChunks_le job.content.length job.imageIndex
  change chunkSize * indexedChunks job.content.length job.imageIndex ≤ job.content.length
  unfold chunkSize at *
  omega

lemma hashesOf_length (hlength : ∀ chunk, chunk.length = chunkSize → (sha256 chunk).length =
    sha256Len) (file : ByteFile) :
    (hashesOf sha256 file).length = sha256Len * (file.size / chunkSize) :=
  length_flatMap_hashes (fun i => hlength _ (length_chunkAt file i)) _ _

/-- The table of an index that was opened is small, and large enough for its count. -/
lemma Opened.length {fd : DataFd} {file : ByteFile} {indexFile : Option (List UInt8)}
    {idx : RaucHashIndex}
    (hlength : ∀ chunk, chunk.length = chunkSize → (sha256 chunk).length = sha256Len)
    (h : Opened sha256 fd file indexFile idx) :
    idx.hashes.length < 2 ^ 32 ∧ idx.count ≤ idx.hashes.length / sha256Len := by
  obtain ⟨-, -, -, hsize⟩ := h.indexable
  rw [h.hashes, h.count]
  unfold indexedChunks
  cases indexFile with
  | some mapped =>
    dsimp only [Option.getD_some] at hsize ⊢
    unfold maxUint32 at hsize
    exact ⟨by omega, Nat.min_le_right _ _⟩
  | none =>
    dsimp only [Option.getD_none] at hsize ⊢
    rw [hashesOf_length hlength]
    refine ⟨hsize, ?_⟩
    unfold sha256Len
    omega

lemma Opened.matches {fd : DataFd} {idx : RaucHashIndex}
    (hlength : ∀ chunk, chunk.length = chunkSize → (sha256 chunk).length = sha256Len)
    (hindex : IndexMatches sha256 job)
    (h : Opened sha256 fd job.source job.imageIndex idx) {i : Nat}
    (hi : i < idx.hashes.length / sha256Len)
    (hsize : chunkSize * (i + 1) ≤ job.source.size) :
      hashAt idx.hashes i = sha256 (job.source.chunkAt i) := by
  rw [h.hashes] at hi ⊢
  cases hfile : job.imageIndex with
  | some mapped =>
    rw [hfile] at hi
    exact hindex mapped hfile i hi hsize
  | none =>
    unfold hashesOf
    rw [Option.getD_none, hashAt_flatMap (fun i => hlength _ (length_chunkAt job.source i)),
      Nat.zero_add]
    unfold chunkSize at *
    omega

lemma rHashIndexReuse_looks (v : Nat → UInt8) (idx : RaucHashIndex)
    (hsmall : idx.hashes.length < 2 ^ 32)
    (hcount : idx.count ≤ idx.hashes.length / sha256Len) :
    Looks v (rHashIndexReuse job.dev idx) (fun reused => reused.dataFd = .target ∧
      reused.lookup = buildLookup reused.hashes ∧ ∃ n ≤ idx.count, reused.hashes =
        idx.hashes.take (sha256Len * n)) := by
  unfold rHashIndexReuse
  apply looks_bind (getChunkCount_looks _)
  rintro size -
  apply looks_pure
  refine ⟨rfl, rfl, if idx.count < size then idx.count else size, by split_ifs <;> omega, ?_⟩
  have hoffset : (if idx.count < size then idx.count else size) * sha256Len % 2 ^ 32 =
      sha256Len * (if idx.count < size then idx.count else size) := by
    unfold sha256Len at *
    split_ifs <;> omega
  unfold hashIndexPrepare
  dsimp only
  rw [hoffset]

/-- The declared size of the image is within the limit and not larger than the device. -/
def SizeAccepted (job : AdaptiveCopy) : Prop :=
  ¬(0 < job.slot.sizeLimit ∧ job.slot.sizeLimit < (job.image.checksum.size.toInt % 2 ^ 64).toNat) ∧
    (job.isBlockDevice = false ∨ job.image.checksum.size.toInt ≤ job.dev.size)

lemma checkImageSizeOfSlot_looks (v : Nat → UInt8) :
    Looks v (checkImageSizeOfSlot job) (fun _ => SizeAccepted job) := by
  unfold checkImageSizeOfSlot
  dsimp only
  split
  · exact looks_exit
  · rename_i hlimit
    split
    · rename_i hblock
      exact looks_pure ⟨hlimit, .inl hblock⟩
    · apply looks_bind (Q := fun _ => True) (triple_ask (fun _ _ hst => ⟨hst, trivial⟩)
        (fun _ hst => hst))
      intro r _
      cases r with
      | none =>
        dsimp only
        split
        · exact looks_exit
        · exact looks_pure ⟨hlimit, .inr (by omega)⟩
      | some failure =>
        dsimp only
        split
        · exact looks_exit
        · exact looks_pure ⟨hlimit, .inr (by omega)⟩

lemma openSeed_looks (old v : Nat → UInt8) :
    Looks v (openSeed sha256 job progress) (fun seeds =>
      (∀ idx ∈ seeds, ∀ c, GoodSource sha256 job old c idx) ∧
      ∀ seed, job.seed = some seed → seed.slot.dataDirectory ≠ none ∧
        Indexable seed.data.size seed.indexFile) := by
  unfold openSeed
  cases hseed : job.seed with
  | none => exact looks_pure ⟨fun idx hidx => by simp at hidx, fun seed hsome => by simp at hsome⟩
  | some seed =>
    apply looks_bind (looks_mapError (rHashIndexOpenSlot_looks seed.slot (.file seed.data)
      seed.indexFile))
    rintro idx ⟨hidx, hdir⟩
    apply looks_pure
    refine ⟨?_, fun seed' hsome => ?_⟩
    swap
    · obtain rfl : seed = seed' := by simpa using hsome
      exact ⟨hdir, hidx.indexable⟩
    intro idx' hidx'
    obtain rfl : idx' = idx := by simpa using hidx'
    intro c
    have hchecked : idx'.skipHashCheck = true → False := by
      intro hskip
      rw [hidx.checked] at hskip
      exact absurd hskip (by decide)
    exact ⟨fun hskip => (hchecked hskip).elim,
      .inr ⟨seed.data, by simp [AdaptiveCopy.files, hseed], hidx.dataFd,
      fun hskip => (hchecked hskip).elim⟩⟩

lemma finishCopy_reading {v : Nat → UInt8} : Triple (Reading v) finishCopy (fun _ => Reading v)
    (fun _ _ => True) := by
  have hstep : ∀ (effect : CachedDevice UInt8 → CachedDevice UInt8) (report : Failure → GError),
      (∀ d, d.cache = v → (effect d).cache = v) →
        Looks v (diskStep effect report) (fun _ => True) := by
    intro effect report heffect
    exact triple_consequence (diskStep_reading heffect) (fun _ h => h) (fun _ _ h => ⟨h, trivial⟩)
      (fun _ _ h => h)
  unfold finishCopy
  refine (hstep id _ (fun _ hd => hd)).triple_bind (fun _ _ => ?_)
  refine (hstep CachedDevice.sync _ (fun _ hd => hd)).triple_bind (fun _ _ => ?_)
  refine (looks_attempt (hstep id _ (fun _ hd => hd))).triple_bind (fun _ _ => ?_)
  exact triple_pure (fun _ hst => hst)

/-- After a copy that succeeds the chunks that the index covers are those of the image, and
everything else is as it was. -/
lemma copyBlockHashIndexImageToDev_reading (hsha : ChunkHash sha256 job old)
    (hindex : IndexMatches sha256 job) :
    Triple (Reading old) (copyBlockHashIndexImageToDev sha256 job progress)
      (fun _ => Reading (mixed job.source old job.indexed)) (fun _ _ => True) := by
  unfold copyBlockHashIndexImageToDev
  refine (looks_mapError (rHashIndexOpenSlot_looks job.slot .target job.targetIndex)).triple_bind ?_
  rintro before ⟨hbefore, -⟩
  refine (checkImageSizeOfSlot_looks old).triple_bind (fun _ _ => ?_)
  refine (openSeed_looks old old).triple_bind (fun seeds hseeds => ?_)
  unfold rHashIndexOpenImage
  refine (looks_mapError (looks_idle (rHashIndexOpen_looks (.file job.source)
    job.imageIndex))).triple_bind
    (fun opened hopened => ?_)
  change Opened sha256 (.file job.source) job.source job.imageIndex opened at hopened
  obtain ⟨hsmall, hcount⟩ := hopened.length hsha.length
  refine (looks_mapError (rHashIndexReuse_looks old { opened with skipHashCheck := true } hsmall
    hcount)).triple_bind ?_
  rintro reused ⟨hfd, hlookup, n, hn, hhashes⟩
  refine triple_bind (triple_consequence (@diskStep_reading old old id _ (fun _ hd => hd))
    (fun _ h => h) (fun _ _ h => h)
    (fun _ _ _ => trivial)) (fun _ => ?_)
  have hentries : Describes sha256 job.source { opened with skipHashCheck := true } := by
    intro i hi hsize
    change i ∈ opened.lookup at hi
    rw [hopened.lookup, mem_buildLookup] at hi
    exact hopened.matches hsha.length hindex hi hsize
  have hgood : ∀ idx ∈ { reused with invalidFrom := 0, skipHashCheck := true } :: before :: seeds ++
      [{ opened with skipHashCheck := true }], GoodSource sha256 job old 0 idx := by
    intro idx hidx
    simp only [List.cons_append, List.mem_cons, List.mem_append, List.not_mem_nil, or_false] at hidx
    rcases hidx with rfl | rfl | hidx | rfl
    · refine ⟨fun _ => ?_, .inl ⟨hfd, fun _ => le_refl _⟩⟩
      intro i hi hsize
      change i ∈ reused.lookup at hi
      change hashAt reused.hashes i = _
      rw [hlookup, mem_buildLookup, hhashes, List.length_take] at hi
      change n ≤ opened.count at hn
      have hin : i < n := by
        unfold sha256Len at *
        omega
      rw [hhashes, hashAt_take hin]
      exact hopened.matches hsha.length hindex (by omega) hsize
    · have hchecked : idx.skipHashCheck = true → False := by
        intro hskip
        rw [hbefore.checked] at hskip
        exact absurd hskip (by decide)
      exact ⟨fun hskip => (hchecked hskip).elim,
        .inl ⟨hbefore.dataFd, fun hskip => (hchecked hskip).elim⟩⟩
    · exact hseeds.1 idx hidx 0
    · exact ⟨fun _ => hentries,
        .inr ⟨job.source, by simp [AdaptiveCopy.files], hopened.dataFd, fun _ => rfl⟩⟩
  have hfits := indexed_fits job
  have hindexed : opened.count = job.indexed := hopened.count
  have hcopy := copyChunks_reading hsha opened.hashes opened.count hgood
      (by rwa [Nat.zero_add, hindexed]) (by
      intro i hi
      rw [Nat.zero_add] at hi
      refine hopened.matches hsha.length hindex (by omega) ?_
      unfold chunkSize at *
      omega)
  rw [mixed_zero, Nat.zero_add] at hcopy
  rw [← hindexed]
  exact triple_bind hcopy (fun _ => finishCopy_reading)

end WholeCopy

end RaucUpdate
