import RaucUpdate.Model.BundleTrailer

/-!
# Writing and reading the signature of a bundle

`Trailer` says which payload size and signature the last bytes of a file stand for. The local reader
finds exactly that; the streaming reader finds nothing else and accepts fewer files.
-/

namespace RaucUpdate

open Library Prog

def sigsizeOf (file : List UInt8) : Nat := ofBigEndian (readAt file (file.length - 8) 8)

def Trailer (max : UInt64) (file : List UInt8) (opened : OpenedBundle) : Prop :=
  8 ≤ file.length ∧ checkSignatureSize max (sigsizeOf file) (file.length - 8) = .ok () ∧
    opened = ⟨file.length - 8 - sigsizeOf file, readAt file (file.length - 8 - sigsizeOf file)
      (sigsizeOf file)⟩

lemma checkSignatureSize_ok {max : UInt64} {sigsize offset : Nat} :
    checkSignatureSize max sigsize offset = .ok () ↔ 0 < sigsize ∧ sigsize ≤ offset ∧
      sigsize ≤ max.toNat := by
  unfold checkSignatureSize
  split_ifs with hzero hoffset hmax
  · simp only [false_iff]
    omega
  · simp only [false_iff]
    omega
  · simp only [false_iff]
    omega
  · simp only [true_iff]
    omega

section Steps

variable {file : List UInt8} {pos : Nat}

/-- The file is as it was, and it has been read only inside so far. -/
def ReadInside (file : List UInt8) (st : BundleFile) : Prop :=
  st.content = file ∧ ∀ r ∈ st.reads, r.1 + r.2 ≤ file.length

def At (file : List UInt8) (pos : Nat) (st : BundleFile) : Prop :=
  ReadInside file st ∧ st.position = pos

lemma ReadInside.asked {st : BundleFile} {offset count : Nat} (h : ReadInside file st)
    (hin : offset + count ≤ file.length) : ReadInside file (st.asked offset count) := by
  refine ⟨h.1, ?_⟩
  intro q hq
  cases List.mem_append.mp hq with
  | inl hold => exact h.2 q hold
  | inr hnew =>
    rw [List.mem_singleton.mp hnew]
    exact hin

/-- What is left on every way out. -/
def LeftInside (file : List UInt8) (_ : Exit GError) (st : BundleFile) : Prop := ReadInside file st

lemma triple_gSeekableSeek {P : BundleFile → Prop} {target : Int}
    (hP : ∀ st, P st → ReadInside file st) :
    Triple P (gSeekableSeek target) (fun _ st => At file target.toNat st ∧
      0 ≤ target) (LeftInside file) := by
  unfold gSeekableSeek
  split_ifs with hneg
  · exact triple_exit (fun st h => hP st h)
  · apply triple_external
    · intro st h
      exact ⟨⟨hP st h, rfl⟩, by omega⟩
    · exact fun st h _ => hP st h
    · exact fun st h => hP st h

lemma triple_gInputStreamReadAll {count : Nat} (hin : pos + count ≤ file.length) :
    Triple (At file pos) (gInputStreamReadAll count)
      (fun bytes st => ReadInside file st ∧ bytes = readAt file pos count) (LeftInside file) := by
  unfold gInputStreamReadAll
  apply triple_read_bind
  rintro st ⟨hst, rfl⟩
  refine triple_bind (Q := fun _ => ReadInside file) (triple_modify ?_) ?_
  · rintro s rfl
    exact hst.asked hin
  intro _
  refine triple_bind (Q := fun _ => ReadInside file) (triple_external ?_ ?_ ?_) ?_
  · exact fun s h => h
  · exact fun s h _ => h
  · exact fun s h => h
  · intro _
    exact triple_pure (fun s h => ⟨h, by rw [hst.1]⟩)

lemma triple_inputStreamReadUint64All (hin : pos + 8 ≤ file.length) :
    Triple (At file pos) inputStreamReadUint64All
      (fun n st => ReadInside file st ∧ n = ofBigEndian (readAt file pos 8)) (LeftInside file) := by
  unfold inputStreamReadUint64All
  refine triple_bind (triple_gInputStreamReadAll hin) ?_
  intro bytes
  split_ifs with hlen
  · exact triple_exit (fun st h => h.1)
  · exact triple_pure (fun st h => ⟨h.1, congrArg ofBigEndian h.2⟩)

lemma triple_inputStreamReadBytesAll {count : Nat} (hin : pos + count ≤ file.length) :
    Triple (At file pos) (inputStreamReadBytesAll count)
      (fun bytes st => ReadInside file st ∧ bytes = readAt file pos count) (LeftInside file) := by
  unfold inputStreamReadBytesAll
  split_ifs with hzero
  · exact triple_exit (fun st h => h.1)
  · refine triple_bind (triple_gInputStreamReadAll hin) ?_
    intro bytes
    split_ifs with hlen
    · exact triple_exit (fun st h => h.1)
    · exact triple_pure (fun st h => h)

lemma triple_checkedSignatureSize {max : UInt64} {sigsize offset : Nat} :
    Triple (ReadInside file) (checkedSignatureSize max sigsize offset)
      (fun _ st => ReadInside file st ∧ checkSignatureSize max sigsize offset = .ok ())
        (LeftInside file) := by
  unfold checkedSignatureSize
  cases h : checkSignatureSize max sigsize offset with
  | ok _ => exact triple_pure (fun st hst => ⟨hst, rfl⟩)
  | error e => exact triple_exit (fun st hst => hst)

/-- The function asks for these bytes and no others, so they have to exist. -/
lemma triple_rNbdRead {size offset : Nat} (hin : offset + size ≤ file.length) :
    Triple (ReadInside file) (rNbdRead size offset)
      (fun bytes st => ReadInside file st ∧ bytes = readAt file offset size) (LeftInside file) := by
  unfold rNbdRead
  by_cases hzero : size = 0
  · rw [if_pos hzero]
    exact triple_exit (fun s h => h)
  rw [if_neg hzero]
  have hlen : size % 2 ^ 32 ≤ size := Nat.mod_le _ _
  refine triple_bind (Q := fun _ => ReadInside file)
    (triple_modify (fun s h => h.asked (by omega))) ?_
  intro _
  refine triple_bind (Q := fun _ => ReadInside file) (triple_external_id (fun _ s h => h)) ?_
  intro _
  apply triple_read_bind
  intro st hst
  split_ifs with hshort hcut
  · apply triple_exit
    rintro s rfl
    exact hst
  · apply triple_exit
    rintro s rfl
    exact hst
  · apply triple_pure
    rintro s rfl
    exact ⟨hst, by rw [hst.1]⟩

lemma triple_prefixed {α : Type} {P : BundleFile → Prop} {p : BundleProg α}
    {Q : α → BundleFile → Prop} {text : String}
    (h : Triple P p Q (LeftInside file)) : Triple P (mapError (GError.prefixed text) p) Q
      (LeftInside file) :=
  triple_mapError h (fun _ _ hs => hs)

end Steps

section Readers

variable {file : List UInt8}

lemma triple_openRemoteBundle (max : UInt64) :
    Triple (ReadInside file) (openRemoteBundle max) (fun opened st => ReadInside file st ∧
      Trailer max file opened)
      (LeftInside file) := by
  unfold openRemoteBundle
  apply triple_read_bind
  intro st hst
  rw [hst.1]
  simp only
  split_ifs with hsmall
  · apply triple_exit
    rintro s rfl
    exact hst
  · have hsize : file.length - 8 + 8 ≤ file.length := by omega
    refine triple_bind (triple_prefixed (triple_consequence (triple_rNbdRead hsize) ?_
      (fun _ _ h => h)
      (fun _ _ h => h))) ?_
    · rintro s rfl
      exact hst
    · intro bytes
      apply triple_fact
      rintro rfl
      refine triple_bind triple_checkedSignatureSize ?_
      intro _
      apply triple_fact
      intro hcheck
      split_ifs with haligned
      · exact triple_exit (fun s h => h)
      · obtain ⟨-, hle, -⟩ := checkSignatureSize_ok.mp hcheck
        refine triple_bind (triple_prefixed (triple_rNbdRead (by omega))) ?_
        intro sigdata
        apply triple_pure
        rintro s ⟨hs, rfl⟩
        exact ⟨hs, Nat.not_lt.mp hsmall, hcheck, rfl⟩

lemma triple_openLocalBundle (max : UInt64) :
    Triple (ReadInside file) (openLocalBundle max) (fun opened st => ReadInside file st ∧
      Trailer max file opened)
      (LeftInside file) := by
  unfold openLocalBundle
  refine triple_bind (Q := fun _ => ReadInside file) (triple_external ?_ ?_ ?_) ?_
  · exact fun st h => h
  · exact fun st h _ => h
  · exact fun st h => h
  intro _
  apply triple_read_bind
  intro st hst
  rw [hst.1]
  refine triple_bind (triple_prefixed (triple_gSeekableSeek ?_)) ?_
  · rintro s rfl
    exact hst
  intro _
  apply triple_fact
  intro hpos
  have hlen : 8 ≤ file.length := by omega
  apply triple_read_bind
  intro st' hst'
  rw [hst'.2, show ((file.length : Int) - 8).toNat = file.length - 8 by omega] at *
  refine triple_bind
    (triple_prefixed (triple_consequence (@triple_inputStreamReadUint64All file (file.length - 8)
    (by omega)) ?_ (fun _ _ h => h) (fun _ _ h => h))) ?_
  · rintro s rfl
    exact hst'
  intro sigsize
  apply triple_fact
  rintro rfl
  refine triple_bind triple_checkedSignatureSize ?_
  intro _
  apply triple_fact
  intro hcheck
  obtain ⟨-, hle, -⟩ := checkSignatureSize_ok.mp hcheck
  refine triple_bind (triple_prefixed (triple_gSeekableSeek (fun s h => h))) ?_
  intro _
  apply triple_fact
  intro _
  have hseek :
      (((file.length - 8 : Nat) : Int) - (ofBigEndian (readAt file (file.length - 8) 8) :
      Nat)).toNat =
      file.length - 8 - sigsizeOf file := by
    unfold sigsizeOf
    omega
  rw [hseek]
  refine triple_bind (triple_prefixed (triple_inputStreamReadBytesAll
    (by unfold sigsizeOf; omega))) ?_
  intro sigdata
  apply triple_pure
  rintro s ⟨hs, rfl⟩
  exact ⟨hs, hlen, hcheck, rfl⟩

lemma calmly_gSeekableSeek {st : BundleFile} {target : Int} (h : 0 ≤ target) :
    Calmly st (gSeekableSeek target) () { st with position := target.toNat } := by
  unfold gSeekableSeek
  rw [if_neg (by omega)]
  exact calmly_external _ _ _

lemma calmly_inputStreamReadUint64All {st : BundleFile} (h : st.position + 8 ≤ st.content.length) :
    Calmly st inputStreamReadUint64All (ofBigEndian (readAt st.content st.position 8))
      ⟨st.content, st.position + 8, st.reads ++ [(st.position, 8)]⟩ := by
  have hread : Calmly st (gInputStreamReadAll 8) (readAt st.content st.position 8)
      ⟨st.content, st.position + 8, st.reads ++ [(st.position, 8)]⟩ := rfl
  apply calmly_bind hread
  rw [length_readAt_of_le h, if_neg (by omega)]
  rfl

lemma calmly_inputStreamReadBytesAll {st : BundleFile} {count : Nat} (hcount : 0 < count)
    (h : st.position + count ≤ st.content.length) :
    Calmly st (inputStreamReadBytesAll count) (readAt st.content st.position count)
      ⟨st.content, st.position + count, st.reads ++ [(st.position, count)]⟩ := by
  unfold inputStreamReadBytesAll
  rw [if_neg (by omega)]
  have hread : Calmly st (gInputStreamReadAll count) (readAt st.content st.position count)
      ⟨st.content, st.position + count, st.reads ++ [(st.position, count)]⟩ := rfl
  apply calmly_bind hread
  rw [length_readAt_of_le h, if_neg (by omega)]
  rfl

/-- Without faults the local reader finds what the trailer says. -/
lemma calmly_openLocalBundle {max : UInt64} {opened : OpenedBundle} (h : Trailer max file opened) :
    ∃ st, Calmly ⟨file, 0, []⟩ (openLocalBundle max) opened st := by
  obtain ⟨hlen, hcheck, rfl⟩ := h
  obtain ⟨hpos, hle, -⟩ := checkSignatureSize_ok.mp hcheck
  apply Exists.intro
  unfold openLocalBundle
  apply calmly_bind (calmly_external _ _ _)
  apply calmly_read_bind
  apply calmly_bind (calmly_mapError (calmly_gSeekableSeek (by simp only [id_eq]; omega)))
  apply calmly_read_bind
  simp only [id_eq, show ((file.length : Int) - 8).toNat = file.length - 8 by omega]
  apply calmly_bind (calmly_mapError (calmly_inputStreamReadUint64All (by simp only; omega)))
  have hchecked : checkedSignatureSize max (ofBigEndian (readAt file (file.length - 8) 8))
      (file.length - 8) =
      pure () := by
    unfold checkedSignatureSize
    unfold sigsizeOf at hcheck
    rw [hcheck]
    rfl
  rw [hchecked]
  apply calmly_bind (calmly_pure _ _)
  have hseek :
      (((file.length - 8 : Nat) : Int) - (ofBigEndian (readAt file (file.length - 8) 8) :
      Nat)).toNat =
      file.length - 8 - sigsizeOf file := by
    unfold sigsizeOf
    omega
  have hnonneg :
      0 ≤ ((file.length - 8 : Nat) : Int) - (ofBigEndian
      (readAt file (file.length - 8) 8) : Nat) := by
    unfold sigsizeOf at hle
    omega
  apply calmly_bind (calmly_mapError (calmly_gSeekableSeek hnonneg))
  rw [hseek]
  exact calmly_bind (calmly_mapError (calmly_inputStreamReadBytesAll hpos (by
    change file.length - 8 - sigsizeOf file + sigsizeOf file ≤ file.length
    omega))) (calmly_pure _ _)

lemma openLocalBundle_of_trailer {max : UInt64} {opened : OpenedBundle}
    (h : Trailer max file opened) :
    (openLocalBundle max (calm ⟨file, 0, []⟩)).1 = .value opened := by
  obtain ⟨st, hrun⟩ := calmly_openLocalBundle h
  exact observe_of_calmly hrun

end Readers

section Writer

variable {payload sig : List UInt8}

/-- The file that is left when a signature was appended. -/
def signedFile (payload sig : List UInt8) : List UInt8 := payload ++ sig ++ bigEndian 8 sig.length

lemma gOutputStreamWriteAll_at_end {st : BundleFile} {file bytes : List UInt8}
    (hcontent : st.content = file)
    (hpos : st.position = file.length) :
    overwrite 0 st.content st.position bytes = file ++ bytes ∧
      st.position + bytes.length = (file ++ bytes).length := by
  rw [hcontent, hpos, overwrite_at_end, List.length_append]
  exact ⟨rfl, rfl⟩

/-- The stream stands at the end of this content. -/
def AtEnd (file : List UInt8) (st : BundleFile) : Prop :=
  st.content = file ∧ st.position = file.length

lemma triple_gOutputStreamWriteAll {file bytes : List UInt8} :
    Triple (AtEnd file) (gOutputStreamWriteAll bytes) (fun _ => AtEnd (file ++ bytes))
      (fun _ _ => True) := by
  apply triple_external
  · intro st h
    exact gOutputStreamWriteAll_at_end h.1 h.2
  · exact fun _ _ _ => trivial
  · exact fun _ _ => trivial

lemma triple_appendSignatureToBundle :
    Triple (fun st => st.content = payload) (appendSignatureToBundle sig)
      (fun _ st => st.content = signedFile payload sig) (fun _ _ => True) := by
  unfold appendSignatureToBundle
  refine triple_bind (Q := fun _ st => st.content = payload) (triple_external ?_ ?_ ?_) ?_
  · exact fun _ h => h
  · exact fun _ _ _ => trivial
  · exact fun _ _ => trivial
  intro _
  apply triple_read_bind
  rintro st rfl
  refine triple_bind (Q := fun _ => AtEnd st.content) (triple_mapError ?_ (fun _ _ _ => trivial)) ?_
  · unfold gSeekableSeek
    rw [if_neg (by omega)]
    apply triple_external
    · rintro s rfl
      exact ⟨rfl, by simp only; omega⟩
    · exact fun _ _ _ => trivial
    · exact fun _ _ => trivial
  intro _
  apply triple_read_bind
  intro st' hst'
  refine triple_bind (Q := fun _ => AtEnd (st.content ++ sig))
    (triple_mapError ?_ (fun _ _ _ => trivial)) ?_
  · apply triple_consequence triple_gOutputStreamWriteAll ?_ (fun _ _ h => h) (fun _ _ h => h)
    rintro s rfl
    exact hst'
  intro _
  apply triple_read_bind
  intro st'' hst''
  have hoffset : st''.position - st'.position = sig.length := by
    rw [hst''.2, hst'.2, List.length_append]
    omega
  rw [hoffset]
  apply triple_mapError ?_ (fun _ _ _ => trivial)
  apply triple_consequence triple_gOutputStreamWriteAll ?_ (fun _ _ h => h.1) (fun _ _ h => h)
  rintro s rfl
  exact hst''

lemma calms_appendSignatureToBundle (sig : List UInt8) :
    Calms (fun _ => True) (appendSignatureToBundle sig) (fun _ _ => True) := by
  unfold appendSignatureToBundle
  apply calms_bind (calms_external (Q := fun _ _ => True) (fun _ _ => trivial))
  intro _
  apply calms_read_bind
  intro st _
  refine calms_bind (Q := fun _ _ => True) (calms_mapError ?_) ?_
  · intro s _
    exact ⟨(), _, calmly_gSeekableSeek (by omega), trivial⟩
  intro _
  apply calms_read_bind
  intro _ _
  apply calms_bind (calms_mapError (calms_external (Q := fun _ _ => True) (fun _ _ => trivial)))
  intro _
  apply calms_read_bind
  intro _ _
  exact calms_mapError (calms_external (fun _ _ => trivial))

lemma sigsizeOf_signedFile (hlt : sig.length < 2 ^ 64) : sigsizeOf (signedFile payload sig) =
    sig.length := by
  have hword := length_bigEndian 8 sig.length
  have hread := readAt_append_right (payload ++ sig) (bigEndian 8 sig.length) []
  have hlen : (signedFile payload sig).length - 8 = (payload ++ sig).length := by
    unfold signedFile
    rw [List.length_append, hword, Nat.add_sub_cancel]
  rw [List.append_nil, hword] at hread
  unfold sigsizeOf
  rw [hlen]
  unfold signedFile
  rw [hread]
  exact ofBigEndian_bigEndian hlt

lemma trailer_signedFile {max : UInt64} (hsig : 0 < sig.length) (hmax : sig.length ≤ max.toNat) :
    Trailer max (signedFile payload sig) ⟨payload.length, sig⟩ := by
  have hlen : (signedFile payload sig).length = payload.length + sig.length + 8 := by
    unfold signedFile
    rw [List.length_append, List.length_append, length_bigEndian]
  have hsize : sigsizeOf (signedFile payload sig) = sig.length := by
    apply sigsizeOf_signedFile
    have := max.toNat_lt
    omega
  refine ⟨by omega, ?_, ?_⟩
  · rw [hsize, checkSignatureSize_ok]
    omega
  · rw [hsize, hlen, show payload.length + sig.length + 8 - 8 - sig.length =
      payload.length by omega]
    unfold signedFile
    rw [readAt_append_right]

end Writer

/-- A signature that was appended is found again with the size of the payload. Of any file, the
streaming reader accepts nothing that the local reader would not find there, and none of them reads
outside the file. -/
theorem bundle_trailer (max : UInt64) :
    (∀ payload sig : List UInt8, 0 < sig.length → sig.length ≤ max.toNat →
      (∃ st, Calmly ⟨payload, 0, []⟩ (appendSignatureToBundle sig) () st) ∧
      ∀ w : World BundleFile, w.state.content = payload →
        (appendSignatureToBundle sig w).1 = .value () →
        (openLocalBundle max (calm ⟨(appendSignatureToBundle sig w).2.state.content, 0, []⟩)).1 =
          .value ⟨payload.length, sig⟩) ∧
    (∀ file : List UInt8, ∀ w : World BundleFile, w.state = ⟨file, 0, []⟩ →
      (∀ opened, (openRemoteBundle max w).1 = .value opened →
        (openLocalBundle max (calm ⟨file, 0, []⟩)).1 = .value opened) ∧
      (∀ r ∈ (openRemoteBundle max w).2.state.reads, r.1 + r.2 ≤ file.length) ∧
      (∀ r ∈ (openLocalBundle max w).2.state.reads, r.1 + r.2 ≤ file.length)) := by
  refine ⟨?_, ?_⟩
  · intro payload sig hsig hmax
    refine ⟨?_, ?_⟩
    · obtain ⟨_, st, hrun, -⟩ := calms_appendSignatureToBundle sig ⟨payload, 0, []⟩ trivial
      exact ⟨st, hrun⟩
    · intro w hw hrun
      have hcontent := triple_appendSignatureToBundle.value (w := w) hw hrun
      rw [hcontent]
      exact openLocalBundle_of_trailer (trailer_signedFile hsig hmax)
  · intro file w hw
    have hstart : ReadInside file w.state := by
      rw [hw]
      exact ⟨rfl, by simp⟩
    have hremote := triple_openRemoteBundle max w hstart
    have hlocal := triple_openLocalBundle max w hstart
    unfold Holds at hremote hlocal
    refine ⟨?_, ?_, ?_⟩
    · intro opened hopened
      rw [hopened] at hremote
      exact openLocalBundle_of_trailer hremote.2
    · cases h : (openRemoteBundle max w).1 with
      | value opened =>
        rw [h] at hremote
        exact hremote.1.2
      | exit x =>
        rw [h] at hremote
        exact hremote.2
    · cases h : (openLocalBundle max w).1 with
      | value opened =>
        rw [h] at hlocal
        exact hlocal.1.2
      | exit x =>
        rw [h] at hlocal
        exact hlocal.2

theorem bundle_trailer_one_byte : (openLocalBundle 65536
    (calm ⟨(appendSignatureToBundle [48] (calm ⟨[104, 115], 0, []⟩)).2.state.content, 0, []⟩)).1 =
      .value ⟨2, [48]⟩ :=
  ((bundle_trailer 65536).1 [104, 115] [48] (by decide) (by decide)).2
    (calm ⟨[104, 115], 0, []⟩) rfl rfl

end RaucUpdate
