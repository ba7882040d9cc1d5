import RaucUpdate.Proofs.HashIndex

/-!
# When the copy by hash index is a raw copy

The copy stops where the index in the bundle stops, and reports success. So it refines the raw copy
exactly when the image ends there too or the rest of the image is already in place.
-/

namespace RaucUpdate

open Library Prog

section RawCopy

variable {job : AdaptiveCopy} {old : Nat → UInt8}

lemma writePieces_reading (old : Nat → UInt8) (dev : BlockDevice) (parts : List (List UInt8))
    (done : List UInt8) :
    Triple (Reading (writeAt old 0 done)) (writePieces dev parts done.length)
      (fun _ => Reading (writeAt old 0 (done ++ parts.flatten))) (fun _ _ => True) := by
  induction parts generalizing done with
  | nil =>
    apply triple_pure
    intro st hst
    rwa [List.flatten_nil, List.append_nil]
  | cons piece rest ih =>
    unfold writePieces
    split
    · exact triple_exit (fun _ _ => trivial)
    · have hstep : Triple (Reading (writeAt old 0 done))
          (diskStep (fun d => d.write done.length piece)
            (updateFailed "Error writing to file descriptor: "))
          (fun _ => Reading (writeAt old 0 (done ++ piece))) (fun _ _ => True) := by
        apply triple_consequence (diskStep_reading _) (fun _ h => h) (fun _ _ h => h)
          (fun _ _ _ => trivial)
        intro d hd
        change writeAt d.cache done.length piece = _
        rw [hd, ← writeAt_append, Nat.zero_add]
      apply triple_bind hstep
      intro _
      have hrest := ih (done ++ piece)
      rwa [List.length_append, List.append_assoc] at hrest

/-- A raw copy that succeeds leaves the image and nothing else. An image that is declared to be
empty is not copied. -/
lemma copyRawImageToDev_reading :
    Triple (Reading old) (copyRawImageToDev job)
      (fun _ st => job.image.checksum.size.toInt ≠ 0 → Reading (writeAt old 0 job.content) st)
        (fun _ _ => True) := by
  have hidle : ∀ (v : Nat → UInt8) (effect : CachedDevice UInt8 → CachedDevice UInt8)
      (report : Failure → GError),
      (∀ d, (effect d).cache = d.cache) → Looks v (diskStep effect report) (fun _ => True) := by
    intro v effect report heffect
    apply triple_consequence (@diskStep_reading v v effect report _) (fun _ h => h) (fun _ _ h =>
      ⟨h, trivial⟩) (fun _ _ h => h)
    intro d hd
    rw [heffect, hd]
  by_cases hsize : job.image.checksum.size.toInt = 0
  · exact triple_consequence (Q := fun _ _ => True) (E := fun _ _ => True)
      (fun w _ => by unfold Holds; split <;> trivial)
      (fun _ h => h) (fun _ _ _ hne => absurd hsize hne) (fun _ _ h => h)
  · unfold copyRawImageToDev
    refine (hidle old id _ (fun _ => rfl)).triple_bind (fun _ _ => ?_)
    refine (checkImageSizeOfSlot_looks old).triple_bind (fun _ _ => ?_)
    refine triple_bind (Q := fun _ => Reading (writeAt old 0 job.content)) ?_ (fun _ => ?_)
    · unfold copyRawImage
      split
      · exact triple_exit (fun _ _ => trivial)
      · refine (hidle old id _ (fun _ => rfl)).triple_bind (fun _ _ => ?_)
        unfold readHeader
        rw [if_pos rfl]
        refine Looks.triple_bind (looks_pure (Q := fun header => header = []) rfl) ?_
        rintro header rfl
        unfold rCopyStreamWithProgress
        rw [if_neg hsize]
        have hpieces :=
          writePieces_reading old job.dev (pieces 8192 job.content.length job.content) []
        rw [writeAt_nil, List.nil_append, flatten_pieces (by omega) _ _ (le_refl _)] at hpieces
        refine triple_bind (triple_mapError hpieces (fun _ _ _ => trivial)) (fun _ => ?_)
        dsimp only
        split
        · exact triple_exit (fun _ _ => trivial)
        · unfold writeHeader
          rw [if_pos rfl]
          refine Looks.triple_bind (looks_pure (Q := fun _ => True) trivial) (fun _ _ => ?_)
          refine (hidle _ id _ (fun _ => rfl)).triple_bind (fun _ _ => ?_)
          exact triple_consequence (hidle _ CachedDevice.sync _ (fun _ => rfl)) (fun _ h => h)
            (fun _ _ h => h.1)
            (fun _ _ _ => trivial)
    · exact triple_consequence (hidle _ id _ (fun _ => rfl)) (fun _ h => h) (fun _ _ h _ => h.1)
        (fun _ _ _ => trivial)

end RawCopy

section Calm

variable {sha256 : List UInt8 → List UInt8} {job : AdaptiveCopy} {α β : Type}

/-- Without faults the program returns a value with the property, whatever is on the device. -/
def Succeeds {α : Type} (p : DiskProg α) (Q : α → Prop) : Prop :=
  Calms (fun _ => True) p (fun a _ => Q a)

variable {Q Q' : α → Prop} {R : β → Prop}

lemma succeeds_pure {a : α} (ha : Q a) : Succeeds (Prog.pure a : DiskProg α) Q :=
  calms_pure (fun _ _ => ha)

lemma succeeds_bind {p : DiskProg α} {f : α → DiskProg β} (hp : Succeeds p Q)
    (hf : ∀ a, Q a → Succeeds (f a) R) :
    Succeeds (p >>= f) R :=
  calms_bind hp (fun a s hs => hf a hs s trivial)

lemma succeeds_step {effect : CachedDevice UInt8 → CachedDevice UInt8} {report : Failure → GError}
    {f : Unit → DiskProg β}
    (hf : Succeeds (f ()) R) : Succeeds (diskStep effect report >>= f) R :=
  calms_bind calms_diskStep (fun _ => hf)

lemma succeeds_read {f : DiskState → DiskProg β} (hf : ∀ st, Succeeds (f st) R) :
    Succeeds (read >>= f) R :=
  calms_read_bind (fun st _ s _ => hf st s trivial)

lemma succeeds_mapError {f : GError → GError} {p : DiskProg α} (hp : Succeeds p Q) :
    Succeeds (mapError f p) Q :=
  calms_mapError hp

/-- What a program returns in every run it also returns in the one without faults. -/
lemma Succeeds.and_looks {p : DiskProg α} (hp : Succeeds p Q) (h : ∀ v, Looks v p Q') :
    Succeeds p (fun a => Q a ∧ Q' a) := by
  intro st _
  have hst := calms_and (P := Reading st.device.cache) (calms_consequence hp (fun _ _ => trivial)
    (fun _ _ h => h))
    (triple_consequence (h st.device.cache) (fun _ h => h) (fun _ _ h => h.2)
      (fun _ _ _ => trivial))
  exact hst st rfl

lemma readChunk_succeeds (dev : BlockDevice) (fd : DataFd) (i : Nat)
    (hsize : ∀ v, chunkSize * (i + 1) ≤ (fd.open dev v).size) :
    Succeeds (readChunk dev fd i) (fun _ => True) := by
  unfold readChunk
  apply succeeds_step
  apply succeeds_read
  intro st
  dsimp only
  rw [if_neg (Nat.not_lt.mpr (hsize _))]
  exact succeeds_pure trivial

lemma getChunkCount_succeeds {size : Nat} (hempty : size ≠ 0)
    (hlarge : size / chunkSize ≤ maxUint32)
    (hwhole : size % chunkSize = 0) : Succeeds (getChunkCount size) (fun count => count =
      size / chunkSize) := by
  unfold getChunkCount
  apply succeeds_step
  apply succeeds_step
  rw [if_neg hempty, if_neg (Nat.not_lt.mpr hlarge), if_neg (not_not.mpr hwhole)]
  exact succeeds_pure rfl

lemma hashLoop_succeeds (dev : BlockDevice) (fd : DataFd) (left i : Nat)
    (hsize : ∀ v, chunkSize * (i + left) ≤ (fd.open dev v).size) :
    Succeeds (hashLoop sha256 dev fd left i) (fun _ => True) := by
  induction left generalizing i with
  | zero => exact succeeds_pure trivial
  | succ left ih =>
    unfold hashLoop
    refine succeeds_bind (readChunk_succeeds dev fd i ?_) (fun _ _ => ?_)
    · intro v
      have hv := hsize v
      unfold chunkSize at *
      omega
    · refine succeeds_bind (ih (i + 1) ?_) (fun _ _ => succeeds_pure trivial)
      intro v
      have hv := hsize v
      rwa [Nat.add_right_comm]

lemma rHashIndexOpen_succeeds (dev : BlockDevice) (fd : DataFd) {size : Nat}
    {indexFile : Option (List UInt8)}
    (hfd : ∀ v, (fd.open dev v).size = size) (h : Indexable size indexFile) :
    Succeeds (rHashIndexOpen sha256 dev false fd indexFile) (fun _ => True) := by
  obtain ⟨hempty, hlarge, hwhole, hfile⟩ := h
  unfold rHashIndexOpen
  apply succeeds_read
  intro st
  rw [hfd]
  refine succeeds_bind (getChunkCount_succeeds hempty hlarge hwhole) ?_
  rintro count rfl
  cases indexFile with
  | some mapped =>
    apply succeeds_step
    rw [if_neg (Nat.not_le.mpr hfile)]
    split
    · exact succeeds_pure trivial
    · exact succeeds_pure trivial
  | none =>
    refine succeeds_bind (Q := fun _ => True) ?_ (fun _ _ => succeeds_pure trivial)
    unfold hashFile
    apply succeeds_step
    rw [if_neg (Nat.not_le.mpr hfile), if_neg (by simp)]
    apply hashLoop_succeeds
    intro v
    rw [hfd]
    unfold chunkSize
    omega

lemma rHashIndexOpenSlot_succeeds (dev : BlockDevice) {slot : RaucSlot} (fd : DataFd) {size : Nat}
    {indexFile : Option (List UInt8)} (hdir : slot.dataDirectory ≠ none)
    (hfd : ∀ v, (fd.open dev v).size = size)
    (h : Indexable size indexFile) :
    Succeeds (rHashIndexOpenSlot sha256 dev false slot fd indexFile) (fun _ => True) := by
  unfold rHashIndexOpenSlot
  apply succeeds_step
  cases hslot : slot.dataDirectory with
  | none => exact absurd hslot hdir
  | some dir =>
    apply succeeds_step
    exact rHashIndexOpen_succeeds dev fd hfd h

lemma attempt_succeeds {p : DiskProg α} (hp : Succeeds p Q) :
    Succeeds (attempt p) (fun _ => True) :=
  calms_consequence (calms_attempt hp) (fun _ h => h) (fun _ _ _ => trivial)

lemma rHashIndexGetChunk_attempt (idx : RaucHashIndex) (hash : List UInt8) :
    Succeeds (attempt (rHashIndexGetChunk sha256 job.dev idx hash)) (fun _ => True) := by
  unfold rHashIndexGetChunk
  split
  · exact calms_attempt_fail _
  · split
    · exact calms_attempt_fail _
    · apply calms_attempt_bind
      · unfold readChunk
        refine calms_attempt_bind (attempt_succeeds (Q := fun _ => True) calms_diskStep)
          (fun _ => ?_)
        refine calms_attempt_bind (attempt_succeeds (Q := fun _ => True) ?_) (fun st => ?_)
        · exact fun s _ => ⟨s, s, rfl, trivial⟩
        · dsimp only
          split
          · exact calms_attempt_fail _
          · exact attempt_succeeds (succeeds_pure (Q := fun _ => True) trivial)
      · intro chunk
        split
        · exact calms_attempt_fail _
        · exact attempt_succeeds (succeeds_pure (Q := fun _ => True) trivial)

/-- An index that has the hash, of a file that has the chunk. -/
def Finds (dev : BlockDevice) (hash : List UInt8) (idx : RaucHashIndex) : Prop :=
  idx.count ≠ 0 ∧ idx.skipHashCheck = true ∧
    ∃ i, searchChunk idx hash = .ok i ∧ ∀ v, chunkSize * (i + 1) ≤ (idx.dataFd.open dev v).size

lemma rHashIndexGetChunk_succeeds {idx : RaucHashIndex} {hash : List UInt8}
    (h : Finds job.dev hash idx) :
    Succeeds (rHashIndexGetChunk sha256 job.dev idx hash) (fun _ => True) := by
  obtain ⟨hcount, hskip, i, hsearch, hsize⟩ := h
  unfold rHashIndexGetChunk
  rw [if_neg hcount, hsearch]
  refine succeeds_bind (readChunk_succeeds job.dev idx.dataFd i hsize) (fun chunk _ => ?_)
  rw [if_neg (by simp [hskip])]
  exact succeeds_pure trivial

lemma getChunkFrom_succeeds {hash : List UInt8} {sources : List RaucHashIndex}
    (h : ∃ idx ∈ sources, Finds job.dev hash idx) :
    Succeeds (getChunkFrom sha256 job hash sources) (fun found => found ≠ none) := by
  induction sources with
  | nil =>
    obtain ⟨idx, hidx, -⟩ := h
    simp at hidx
  | cons first rest ih =>
    unfold getChunkFrom
    by_cases hfirst : Finds job.dev hash first
    · apply calms_bind (calms_attempt (rHashIndexGetChunk_succeeds hfirst))
      intro r s hr
      obtain ⟨chunk, rfl, -⟩ := hr
      exact succeeds_pure (Q := fun found => found ≠ none) (by simp) s trivial
    · refine succeeds_bind (rHashIndexGetChunk_attempt first hash) (fun r _ => ?_)
      cases r with
      | ok chunk => exact succeeds_pure (by simp)
      | error e =>
        apply ih
        obtain ⟨idx, hidx, hfinds⟩ := h
        rcases List.mem_cons.mp hidx with rfl | hidx
        · exact absurd hfinds hfirst
        · exact ⟨idx, hidx, hfinds⟩

lemma findChunk_succeeds {hash : List UInt8} {sources : List RaucHashIndex}
    (h : ∃ idx ∈ sources, Finds job.dev hash idx) :
    Succeeds (findChunk sha256 job sources hash) (fun _ => True) := by
  unfold findChunk
  refine succeeds_bind (Q := fun found => found ≠ none) ?_ (fun found hfound => ?_)
  · unfold zeroOrChunkFrom
    split
    · exact succeeds_pure (by simp)
    · exact getChunkFrom_succeeds h
  · cases found with
    | none => exact absurd rfl hfound
    | some chunk => exact succeeds_pure trivial

lemma rPwriteLazy_succeeds {c : Nat} (data : List UInt8) (hc : chunkSize * (c + 1) ≤ job.dev.size) :
    Succeeds (rPwriteLazy job data c) (fun _ => True) := by
  unfold rPwriteLazy
  refine succeeds_bind (succeeds_mapError (readChunk_succeeds job.dev .target c (fun _ => hc)))
    (fun existing _ => ?_)
  split
  · exact succeeds_pure trivial
  · exact calms_diskStep

lemma drop_updateLimits (c : Nat) (sources : List RaucHashIndex) :
    (updateLimits c sources).drop 2 = sources.drop 2 := by
  unfold updateLimits
  split
  · rfl
  · rfl

/-- The limits of the index of the image do not move, so every hash of it is found. -/
lemma copyChunks_succeeds (source : RaucHashIndex)
    (hfinds : ∀ i < source.count, Finds job.dev (hashAt source.hashes i) source)
    {left c : Nat} {sources : List RaucHashIndex} (hsource : source ∈ sources.drop 2)
    (hleft : c + left = source.count)
    (hfits : chunkSize * source.count ≤ job.dev.size) :
    Succeeds (copyChunks sha256 job source.hashes left c sources) (fun _ => True) := by
  induction left generalizing c sources with
  | zero => exact succeeds_pure trivial
  | succ left ih =>
    unfold copyChunks
    have hfound := @findChunk_succeeds sha256 job _ _ ⟨source, List.mem_of_mem_drop hsource,
      hfinds c (by omega)⟩
    refine succeeds_bind hfound (fun chunk _ => ?_)
    refine succeeds_bind (rPwriteLazy_succeeds chunk (by unfold chunkSize at *; omega))
      (fun _ _ => ?_)
    apply ih
    · rwa [drop_updateLimits]
    · omega

/-- The sizes of everything that takes part are accepted by the code. -/
structure Admits (job : AdaptiveCopy) : Prop where
  directory : job.slot.dataDirectory ≠ none
  target : Indexable job.dev.size job.targetIndex
  size : SizeAccepted job
  seed : ∀ seed, job.seed = some seed → seed.slot.dataDirectory ≠ none ∧
    Indexable seed.data.size seed.indexFile
  image : Indexable job.content.length job.imageIndex
  room : chunkSize * job.indexed ≤ job.dev.size

lemma checkImageSizeOfSlot_succeeds (h : SizeAccepted job) :
    Succeeds (checkImageSizeOfSlot job) (fun _ => True) := by
  obtain ⟨hlimit, hfits⟩ := h
  unfold checkImageSizeOfSlot
  dsimp only
  rw [if_neg hlimit]
  split
  · exact succeeds_pure trivial
  · rename_i hblock
    have hroom := hfits.resolve_left hblock
    apply calms_bind (calms_ask (Q := fun r _ => r = none) (fun _ _ => rfl))
    intro r s hr
    rw [hr]
    dsimp only
    rw [if_neg (by omega)]
    exact succeeds_pure (Q := fun _ => True) trivial s trivial

/-- Without faults the copy by an index that is shorter than the image reports success. -/
lemma copyBlockHashIndexImageToDev_succeeds {mapped : List UInt8} (h : Admits job)
    (hindex : job.imageIndex = some mapped)
    (hshort : mapped.length / sha256Len ≤ job.content.length / chunkSize) :
    Succeeds (copyBlockHashIndexImageToDev sha256 job false) (fun _ => True) := by
  unfold copyBlockHashIndexImageToDev
  refine succeeds_bind (succeeds_mapError (rHashIndexOpenSlot_succeeds job.dev .target h.directory
    (fun _ => rfl) h.target))
    (fun before _ => ?_)
  refine succeeds_bind (checkImageSizeOfSlot_succeeds h.size) (fun _ _ => ?_)
  refine succeeds_bind (Q := fun _ => True) ?_ (fun seeds _ => ?_)
  · unfold openSeed
    cases hseed : job.seed with
    | none => exact succeeds_pure trivial
    | some seed =>
      obtain ⟨hdir, hsize⟩ := h.seed seed hseed
      exact succeeds_bind (succeeds_mapError (rHashIndexOpenSlot_succeeds job.dev (.file seed.data)
        hdir (fun _ => rfl) hsize))
        (fun _ _ => succeeds_pure trivial)
  unfold rHashIndexOpenImage
  have hopen : Succeeds (rHashIndexOpen sha256 job.dev false (.file job.source) job.imageIndex)
      (fun opened =>
      True ∧ Opened sha256 (.file job.source) job.source job.imageIndex opened) :=
    (rHashIndexOpen_succeeds job.dev (.file job.source) (fun _ => rfl) h.image).and_looks
      (fun v => rHashIndexOpen_looks (.file job.source) job.imageIndex)
  refine succeeds_bind (succeeds_mapError (succeeds_step hopen)) ?_
  rintro opened ⟨-, hopened⟩
  have hhashes : opened.hashes = mapped := by rw [hopened.hashes, hindex, Option.getD_some]
  have hcount : opened.count = mapped.length / sha256Len := by
    rw [hopened.count, hindex]
    exact Nat.min_eq_right hshort
  have hsmall : mapped.length < maxUint32 := by
    have hlast := h.image.2.2.2
    rwa [hindex] at hlast
  refine succeeds_bind (Q := fun _ => True) (succeeds_mapError ?_) (fun reused _ => ?_)
  · unfold rHashIndexReuse
    exact succeeds_bind (getChunkCount_succeeds h.target.1 h.target.2.1 h.target.2.2.1) (fun _ _ =>
      succeeds_pure trivial)
  apply succeeds_step
  have hfinds : ∀ i < opened.count, Finds job.dev (hashAt opened.hashes i)
      { opened with skipHashCheck := true } := by
    intro i hi
    have hlength : opened.hashes.length < 2 ^ 32 := by
      rw [hhashes]
      unfold maxUint32 at hsmall
      omega
    have hvalid : opened.count ≤ opened.invalidFrom := by
      rw [hopened.window.2, hopened.count]
      exact le_trans (indexedChunks_le _ _) h.image.2.1
    obtain ⟨j, hj⟩ := searchChunk_complete { opened with skipHashCheck := true }
      hopened.lookup hlength
      (by rw [hhashes]; exact hcount) hopened.window.1 hvalid hi rfl
    refine ⟨?_, rfl, j, hj, ?_⟩
    · change opened.count ≠ 0
      omega
    · intro v
      obtain ⟨hmem, -, -⟩ := searchChunk_sound hj
      change j ∈ opened.lookup at hmem
      rw [hopened.lookup, mem_buildLookup, hhashes] at hmem
      change chunkSize * (j + 1) ≤ (DataFd.open job.dev v opened.dataFd).size
      rw [hopened.dataFd]
      change chunkSize * (j + 1) ≤ job.content.length
      unfold chunkSize at *
      omega
  have hroom : chunkSize * opened.count ≤ job.dev.size := by
    rw [hopened.count]
    exact h.room
  refine succeeds_bind (copyChunks_succeeds { opened with skipHashCheck := true } hfinds (by simp)
    (Nat.zero_add _)
    hroom) (fun _ _ => ?_)
  unfold finishCopy
  apply succeeds_step
  apply succeeds_step
  exact succeeds_bind (attempt_succeeds (Q := fun _ => True) calms_diskStep) (fun _ _ =>
    succeeds_pure trivial)

end Calm

section Accepted

variable {sha256 : List UInt8 → List UInt8} {job : AdaptiveCopy} {progress : Bool} {α β : Type}
  {Q : α → Prop} {R : β → Prop}

/-- What a value that the program returns says about its input. -/
def Tells {α : Type} (p : DiskProg α) (Q : α → Prop) : Prop :=
  Triple (fun _ => True) p (fun a _ => Q a) (fun _ _ => True)

lemma tells_bind {p : DiskProg α} {f : α → DiskProg β} (hp : Tells p Q)
    (hf : ∀ a, Q a → Tells (f a) R) :
    Tells (p >>= f) R :=
  triple_bind hp (fun a w hw => hf a hw w trivial)

lemma tells_any (p : DiskProg α) : Tells p (fun _ => True) := by
  intro w _
  unfold Holds
  split
  · trivial
  · trivial

lemma Looks.tells {p : DiskProg α} (h : ∀ v, Looks v p Q) : Tells p Q := by
  intro w _
  have hw := h w.state.device.cache w rfl
  unfold Holds at hw ⊢
  split at hw
  · exact hw.2
  · trivial

lemma rPwriteLazy_tells (data : List UInt8) (c : Nat) :
    Tells (rPwriteLazy job data c) (fun _ => chunkSize * (c + 1) ≤ job.dev.size) := by
  have hread : ∀ v, Looks v (readChunk job.dev .target c) (fun _ => chunkSize * (c + 1) ≤
      job.dev.size) := by
    intro v
    exact looks_weaken (readChunk_looks .target c) (fun _ h => h.2)
  unfold rPwriteLazy
  refine tells_bind (Looks.tells (fun v => looks_mapError (hread v))) (fun existing hsize => ?_)
  split
  · exact triple_pure (fun _ _ => hsize)
  · exact triple_consequence (tells_any _) (fun _ h => h) (fun _ _ _ => hsize) (fun _ _ h => h)

/-- Every chunk that was written has its place on the device. -/
lemma copyChunks_tells (hashes : List UInt8) (left c : Nat) (sources : List RaucHashIndex)
    (hc : chunkSize * c ≤ job.dev.size) :
    Tells (copyChunks sha256 job hashes left c sources) (fun _ => chunkSize * (c + left) ≤
      job.dev.size) := by
  induction left generalizing c sources with
  | zero => exact triple_pure (fun _ _ => hc)
  | succ left ih =>
    unfold copyChunks
    refine tells_bind (tells_any _) (fun chunk _ => ?_)
    refine tells_bind (rPwriteLazy_tells chunk c) (fun _ hnext => ?_)
    have hrest := ih (c + 1) (updateLimits c sources) hnext
    rwa [Nat.add_right_comm, Nat.add_assoc] at hrest

/-- A copy that succeeds has checked all sizes. -/
lemma copyBlockHashIndexImageToDev_tells : Tells (copyBlockHashIndexImageToDev sha256 job progress)
    (fun _ => Admits job) := by
  have htarget :
      ∀ v, Looks v (rHashIndexOpenSlot sha256 job.dev progress job.slot .target job.targetIndex)
      (fun _ =>
      job.slot.dataDirectory ≠ none ∧ Indexable job.dev.size job.targetIndex) := by
    intro v
    exact looks_weaken (rHashIndexOpenSlot_looks job.slot .target job.targetIndex) (fun _ h =>
      ⟨h.2, h.1.indexable⟩)
  have himage :
      ∀ v, Looks v (rHashIndexOpen sha256 job.dev progress (.file job.source) job.imageIndex)
      (Opened sha256 (.file job.source) job.source job.imageIndex) := fun v =>
    rHashIndexOpen_looks (.file job.source) job.imageIndex
  unfold copyBlockHashIndexImageToDev
  refine tells_bind (Looks.tells (fun v => looks_mapError (htarget v))) (fun before hbefore => ?_)
  refine tells_bind (Looks.tells checkImageSizeOfSlot_looks) (fun _ hsize => ?_)
  have hseed : ∀ v, Looks v (openSeed sha256 job progress) (fun _ => ∀ seed, job.seed = some seed →
      seed.slot.dataDirectory ≠ none ∧ Indexable seed.data.size seed.indexFile) := by
    intro v
    exact looks_weaken (openSeed_looks v v) (fun _ h => h.2)
  refine tells_bind (Looks.tells hseed) (fun seeds hseeds => ?_)
  unfold rHashIndexOpenImage
  refine tells_bind (Looks.tells (fun v => looks_mapError (looks_idle (himage v))))
    (fun opened hopened => ?_)
  refine tells_bind (tells_any _) (fun reused _ => ?_)
  refine tells_bind (tells_any _) (fun _ _ => ?_)
  refine tells_bind (copyChunks_tells _ _ 0 _ (Nat.zero_le _)) (fun _ hroom => ?_)
  refine triple_consequence (tells_any _) (fun _ h => h) (fun _ _ _ => ?_) (fun _ _ h => h)
  refine ⟨hbefore.1, hbefore.2, hsize, hseeds, hopened.indexable, ?_⟩
  change chunkSize * (0 + opened.count) ≤ job.dev.size at hroom
  rwa [Nat.zero_add, hopened.count] at hroom

end Accepted

section Refinement

variable {sha256 : List UInt8 → List UInt8} {job : AdaptiveCopy} {old : Nat → UInt8}

/-- Whenever the copy succeeds, the image stands at the beginning of the target, and the content is
the one that a raw copy leaves. -/
def RefinesRawCopy (sha256 : List UInt8 → List UInt8) (job : AdaptiveCopy) (old : Nat → UInt8) :
    Prop :=
  ∀ progress w, w.state.device.cache = old →
    (copyBlockHashIndexImageToDev sha256 job progress w).1 = .value () →
    Stored (copyBlockHashIndexImageToDev sha256 job progress w).2.state.device.cache 0 job.content ∧
      ∀ w', w'.state.device.cache = old → (copyRawImageToDev job w').1 = .value () →
        job.image.checksum.size.toInt ≠ 0 →
          (copyBlockHashIndexImageToDev sha256 job progress w).2.state.device.cache =
            (copyRawImageToDev job w').2.state.device.cache

/-- What the index does not cover is on the target already. -/
def RestInPlace (job : AdaptiveCopy) (old : Nat → UInt8) : Prop :=
  Stored old (chunkSize * job.indexed) (job.content.drop (chunkSize * job.indexed))

lemma mixed_eq_writeAt (h : RestInPlace job old) : mixed job.source old job.indexed =
    writeAt old 0 job.content := by
  have hfits : chunkSize * job.indexed ≤ job.content.length := indexed_fits job
  funext k
  unfold mixed writeAt
  rw [if_pos (Nat.zero_le k), Nat.sub_zero]
  split_ifs with hk
  · have hlt : k < job.content.length := by omega
    change job.content.getD k 0 = _
    rw [List.getD_eq_getElem?_getD, List.getElem?_eq_getElem hlt]
    rfl
  · cases hat : job.content[k]? with
    | none => rfl
    | some x =>
      have hrest : (job.content.drop (chunkSize * job.indexed))[k - chunkSize * job.indexed]? =
          some x := by
        rw [List.getElem?_drop, show chunkSize * job.indexed + (k - chunkSize * job.indexed) =
          k by omega, hat]
      have hplace := h _ x hrest
      rw [show chunkSize * job.indexed + (k - chunkSize * job.indexed) = k by omega] at hplace
      exact hplace

lemma restInPlace_of_stored (h : Stored (mixed job.source old job.indexed) 0 job.content) :
    RestInPlace job old := by
  intro k x hx
  rw [List.getElem?_drop] at hx
  have hstored := h _ x hx
  unfold mixed at hstored
  rw [Nat.zero_add, if_neg (by omega)] at hstored
  exact hstored

/-- An index with an entry for every chunk leaves no rest. -/
lemma restInPlace_of_covered (h : job.content.length ≤ chunkSize * job.indexed) :
    RestInPlace job old := by
  unfold RestInPlace
  rw [List.drop_eq_nil_of_le h]
  exact stored_nil old _

/-- A rest that is not in place is behind an index that is too short. -/
lemma short_of_rest (hrest : ¬RestInPlace job old) (hadmits : Admits job) :
    ∃ mapped, job.imageIndex = some mapped ∧ mapped.length / sha256Len ≤
      job.content.length / chunkSize := by
  have hwhole := hadmits.image.2.2.1
  by_contra hnone
  apply hrest
  apply restInPlace_of_covered
  unfold AdaptiveCopy.indexed indexedChunks
  cases hindex : job.imageIndex with
  | none =>
    dsimp only
    unfold chunkSize at *
    omega
  | some mapped =>
    have hlong : ¬mapped.length / sha256Len ≤ job.content.length / chunkSize :=
      fun hle => hnone ⟨mapped, hindex, hle⟩
    dsimp only
    rw [Nat.min_eq_left (by omega)]
    unfold chunkSize at *
    omega

lemma refines_of_restInPlace (hsha : ChunkHash sha256 job old) (hindex : IndexMatches sha256 job)
    (h : RestInPlace job old) :
    RefinesRawCopy sha256 job old := by
  intro progress w hw hvalue
  have hcopy := (copyBlockHashIndexImageToDev_reading hsha hindex).value hw hvalue
  unfold Reading at hcopy
  rw [hcopy, mixed_eq_writeAt h]
  refine ⟨stored_writeAt old 0 job.content, ?_⟩
  intro w' hw' hraw hsize
  exact (copyRawImageToDev_reading.value hw' hraw hsize).symm

/-- Where the rest is not in place, the run without faults succeeds and leaves it as it was. -/
lemma not_refines_of_rest (hsha : ChunkHash sha256 job old) (hindex : IndexMatches sha256 job)
    (hadmits : Admits job)
    (hrest : ¬RestInPlace job old) : ¬RefinesRawCopy sha256 job old := by
  intro hrefines
  obtain ⟨mapped, hmapped, hshort⟩ := short_of_rest hrest hadmits
  let st : DiskState := ⟨⟨old, old⟩, fun _ _ _ => false⟩
  obtain ⟨⟨⟩, hvalue, -⟩ :=
    (@copyBlockHashIndexImageToDev_succeeds sha256 job mapped hadmits hmapped hshort).value
      (s := st) trivial
  have hcopy := (copyBlockHashIndexImageToDev_reading hsha hindex).value (w := calm st) rfl hvalue
  obtain ⟨hstored, -⟩ := hrefines false (calm st) rfl hvalue
  unfold Reading at hcopy
  rw [hcopy] at hstored
  exact hrest (restInPlace_of_stored hstored)

theorem adaptive_refines_raw_iff (sha256 : List UInt8 → List UInt8) (job : AdaptiveCopy)
    (old : Nat → UInt8)
    (hsha : ChunkHash sha256 job old) (hindex : IndexMatches sha256 job) :
    RefinesRawCopy sha256 job old ↔ RestInPlace job old ∨ ¬Admits job := by
  constructor
  · intro hrefines
    by_contra hneither
    have hadmits : Admits job := by
      by_contra hnot
      exact hneither (.inr hnot)
    exact not_refines_of_rest hsha hindex hadmits (fun hrest => hneither (.inl hrest)) hrefines
  · rintro (hrest | hnot)
    · exact refines_of_restInPlace hsha hindex hrest
    · intro progress w _ hvalue
      exact absurd (copyBlockHashIndexImageToDev_tells.value trivial hvalue) hnot

/-- SHA256 on chunks of zeros, of ones and of twos. -/
def sampleSha (chunk : List UInt8) : List UInt8 :=
  match chunk.head? with
  | some 0 => rHashIndexZeroChunk
  | some 1 =>
    [0x34, 0x31, 0x38, 0x37, 0x21, 0x51, 0x0c, 0xf1, 0xc2, 0x11, 0xde, 0x02, 0x7c, 0xf9, 0x58, 0xc1,
      0x83, 0xe1, 0x6d, 0xb5, 0xfa, 0xbb, 0x6b, 0x23, 0x0e, 0xb2, 0x84, 0xc8, 0x5e,
        0x19, 0x6a, 0xa9]
  | _ =>
    [0x30, 0xd6, 0xbc, 0x16, 0x4e, 0xa5, 0x41, 0x88, 0xaa, 0x9d, 0xf0, 0xc1, 0x4f, 0x20, 0xc4, 0xfb,
      0xc8, 0xa1, 0x55, 0xc5, 0x64, 0x4b, 0xcc, 0x9e, 0xf9, 0xeb, 0x05, 0x90, 0x1c,
        0xb0, 0x7d, 0x70]

def filledChunk (b : UInt8) : List UInt8 := List.replicate chunkSize b

/-- An image with a chunk of zeros and one of ones, for a slot that is filled with twos and has an
empty index. -/
def sampleCopy (imageIndex : List UInt8) : AdaptiveCopy where
  dev := ⟨8192, 512⟩
  slot := { name := "rootfs.1", sclass := "rootfs", device := "/dev/mmcblk0p2",
            dataDirectory := some "/data/slot.rootfs.1" }
  targetIndex := some []
  seed := none
  image := { slotclass := some "rootfs", checksum := { size := 8192 },
             filename := some "rootfs.img" }
  content := filledChunk 0 ++ filledChunk 1
  imageIndex := some imageIndex

lemma chunkAt_filled {file : ByteFile} {i : Nat} {b : UInt8}
    (h : ∀ k < chunkSize, file.bytes (chunkSize * i + k) = b) :
    file.chunkAt i = filledChunk b := by
  unfold ByteFile.chunkAt filledChunk
  rw [List.eq_replicate_iff]
  refine ⟨by rw [List.length_map, List.length_range], ?_⟩
  intro x hx
  obtain ⟨k, hk, rfl⟩ := List.mem_map.mp hx
  exact h k (List.mem_range.mp hk)

lemma sampleSha_filled (b : UInt8) : sampleSha (filledChunk b) = sampleSha [b] := rfl

variable {imageIndex : List UInt8}

lemma sampleCopy_length : (sampleCopy imageIndex).content.length = 8192 := by
  change (filledChunk 0 ++ filledChunk 1).length = 8192
  unfold filledChunk
  rw [List.length_append, List.length_replicate, List.length_replicate]
  rfl

lemma sampleCopy_indexed : (sampleCopy imageIndex).indexed = min 2
    (imageIndex.length / sha256Len) := by
  unfold AdaptiveCopy.indexed
  rw [sampleCopy_length]
  rfl

lemma sampleCopy_first : (sampleCopy imageIndex).source.chunkAt 0 = filledChunk 0 := by
  apply chunkAt_filled
  intro k hk
  change (filledChunk 0 ++ filledChunk 1).getD (chunkSize * 0 + k) 0 = 0
  unfold filledChunk
  rw [List.getD_eq_getElem?_getD, List.getElem?_append_left (by rw [List.length_replicate]; omega),
    List.getElem?_replicate, if_pos (by omega)]
  rfl

lemma sampleCopy_second : (sampleCopy imageIndex).source.chunkAt 1 = filledChunk 1 := by
  apply chunkAt_filled
  intro k hk
  change (filledChunk 0 ++ filledChunk 1).getD (chunkSize * 1 + k) 0 = 1
  unfold filledChunk
  rw [List.getD_eq_getElem?_getD, List.getElem?_append_right (by rw [List.length_replicate]; omega),
    List.getElem?_replicate, List.length_replicate, if_pos (by omega)]
  rfl

/-- The chunks that are read are filled with one of three bytes. -/
lemma sampleCopy_seen {chunk : List UInt8}
    (h : chunk ∈ SeenChunks (sampleCopy imageIndex) (fun _ => 2)) :
    chunk = filledChunk 0 ∨ chunk = filledChunk 1 ∨ chunk = filledChunk 2 := by
  rcases h with hzero | ⟨file, hfile, i, hsize, hchunk⟩
  · exact .inl hzero
  · have hcases : file = (sampleCopy imageIndex).source ∨ file = ⟨8192, fun _ => 2⟩ := by
      simpa [AdaptiveCopy.files, sampleCopy] using hfile
    rcases hcases with rfl | rfl
    · change chunkSize * (i + 1) ≤ (sampleCopy imageIndex).content.length at hsize
      rw [sampleCopy_length] at hsize
      have hi : i = 0 ∨ i = 1 := by
        unfold chunkSize at hsize
        omega
      rcases hi with rfl | rfl
      · exact .inl (hchunk.trans sampleCopy_first)
      · exact .inr (.inl (hchunk.trans sampleCopy_second))
    · exact .inr (.inr (hchunk.trans (chunkAt_filled (fun _ _ => rfl))))

lemma sampleSha_chunkHash : ChunkHash sampleSha (sampleCopy imageIndex) (fun _ => 2) where
  zero := rfl
  length := by
    intro chunk _
    unfold sampleSha
    split <;> rfl
  injective := by
    intro a ha b hb hab
    rcases sampleCopy_seen ha with rfl | rfl | rfl <;> rcases sampleCopy_seen
      hb with rfl | rfl | rfl
    all_goals first
      | rfl
      | (simp only [sampleSha_filled] at hab; exact absurd hab (by decide))

lemma sampleCopy_admits (hlength : imageIndex.length < maxUint32) :
    Admits (sampleCopy imageIndex) where
  directory := by simp [sampleCopy]
  target := ⟨by simp [sampleCopy], by simp [sampleCopy, chunkSize, maxUint32],
    by simp [sampleCopy, chunkSize],
    by simp [sampleCopy, maxUint32]⟩
  size := by
    refine ⟨by simp [sampleCopy], .inr ?_⟩
    change (8192 : Int64).toInt ≤ (8192 : Nat)
    decide
  seed := by simp [sampleCopy]
  image := by
    rw [sampleCopy_length]
    exact ⟨by decide, by decide, by decide, hlength⟩
  room := by
    have hfits := indexed_fits (sampleCopy imageIndex)
    change _ ≤ (sampleCopy imageIndex).content.length at hfits
    rwa [sampleCopy_length] at hfits

lemma sampleCopy_matches (h : imageIndex = sampleSha [0] ∨ imageIndex =
    sampleSha [0] ++ sampleSha [1]) :
    IndexMatches sampleSha (sampleCopy imageIndex) := by
  intro mapped hmapped i hi hsize
  obtain rfl : imageIndex = mapped := by simpa [sampleCopy] using hmapped
  rcases h with rfl | rfl
  · obtain rfl : i = 0 := by
      change i < 1 at hi
      omega
    rw [sampleCopy_first]
    rfl
  · have hcases : i = 0 ∨ i = 1 := by
      change i < 2 at hi
      omega
    rcases hcases with rfl | rfl
    · rw [sampleCopy_first]
      rfl
    · rw [sampleCopy_second]
      rfl

/-- With an entry for each of the two chunks the copy can succeed, and then it is a raw copy. -/
theorem adaptive_refines_raw_two_chunks :
    RefinesRawCopy sampleSha (sampleCopy (sampleSha [0] ++ sampleSha [1])) (fun _ => 2) ∧
      ∃ w, w.state.device.cache = (fun _ => 2) ∧
        (copyBlockHashIndexImageToDev sampleSha (sampleCopy (sampleSha [0] ++ sampleSha [1])) false
          w).1 = .value () := by
  have hlength : (sampleCopy (sampleSha [0] ++ sampleSha [1])).content.length / chunkSize = 2 := by
    rw [sampleCopy_length]
    rfl
  refine ⟨?_, ?_⟩
  · apply (adaptive_refines_raw_iff sampleSha _ _ sampleSha_chunkHash
      (sampleCopy_matches (.inr rfl))).mpr
    left
    apply restInPlace_of_covered
    rw [sampleCopy_length, sampleCopy_indexed]
    decide
  · obtain ⟨⟨⟩, hvalue, -⟩ := (@copyBlockHashIndexImageToDev_succeeds sampleSha
      (sampleCopy (sampleSha [0] ++ sampleSha [1])) _ (sampleCopy_admits (by decide)) rfl
      (by rw [hlength]; decide)).value (s := ⟨⟨fun _ => 2, fun _ => 2⟩, fun _ _ _ => false⟩) trivial
    exact ⟨_, rfl, hvalue⟩

/-- With an entry for the first chunk only the copy succeeds and the second chunk is not copied. -/
theorem short_index_truncates_image :
    ChunkHash sampleSha (sampleCopy (sampleSha [0])) (fun _ => 2) ∧
      IndexMatches sampleSha (sampleCopy (sampleSha [0])) ∧
      (sampleCopy (sampleSha [0])).content.length % chunkSize = 0 ∧
        ¬RefinesRawCopy sampleSha (sampleCopy (sampleSha [0])) (fun _ => 2) := by
  have hmatches : IndexMatches sampleSha (sampleCopy (sampleSha [0])) :=
    sampleCopy_matches (.inl rfl)
  refine ⟨sampleSha_chunkHash, hmatches, by rw [sampleCopy_length]; rfl, ?_⟩
  apply not_refines_of_rest sampleSha_chunkHash hmatches (sampleCopy_admits (by decide))
  intro hrest
  have hindexed : (sampleCopy (sampleSha [0])).indexed = 1 := by
    rw [sampleCopy_indexed]
    decide
  unfold RestInPlace at hrest
  rw [hindexed] at hrest
  have hbyte : ((sampleCopy (sampleSha [0])).content.drop (chunkSize * 1))[0]? = some 1 := by
    rw [List.getElem?_drop]
    change (filledChunk 0 ++ filledChunk 1)[chunkSize * 1 + 0]? = some 1
    unfold filledChunk
    rw [List.getElem?_append_right (by rw [List.length_replicate]; omega), List.length_replicate,
      List.getElem?_replicate]
    rfl
  exact absurd (hrest 0 1 hbyte) (by decide)

end Refinement

end RaucUpdate
