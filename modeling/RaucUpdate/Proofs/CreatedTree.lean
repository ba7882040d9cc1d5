import RaucUpdate.Proofs.VerityHash

/-!
# The file that the creation of a hash tree leaves

The lowest level is written first, up to the last block of the hash area, and the levels above it
stand between it and the data. So the file ends with the hash area, and whatever is appended to it
does not change what is verified.
-/

namespace RaucUpdate

open Library Library.BlockHash

section Levels

variable {sha256 : List UInt8 → Digest} {salt file : List UInt8} {digest : Digest}

/-- One level is written over the file, and the next ones are written over the result. -/
lemma hashEachLevel_create_step {count dataBlock : Nat} {level : HashLevel} {above : List HashLevel}
    (hsize : level.size = (verityTree sha256 salt).parents count) (hcount : count < 2 ^ 63)
    (hdata : dataBlock * 4096 < 2 ^ 63) (hlevel : level.block * 4096 < 2 ^ 63)
    (hread : (readAt file (dataBlock * 4096) (4096 * count)).length = 4096 * count)
    (hapart : dataBlock + count ≤ level.block ∨ level.block + level.size ≤ dataBlock) :
    ∃ d, hashEachLevel sha256 salt false file digest dataBlock count (level :: above) =
      hashEachLevel sha256 salt false (overwrite 0 file (level.block * 4096)
        ((verityTree sha256 salt).parentLevel count
          (readAt file (dataBlock * 4096) (4096 * count)))) d
        level.block level.size above := by
  obtain ⟨run, hrun, hfile⟩ := @hashBlocks_create sha256 salt file (dataBlock * 4096)
    (level.block * 4096) digest
    _ count rfl hread (by omega)
  refine ⟨run.calculatedDigest, ?_⟩
  rw [hashEachLevel, createOrVerify_fits hdata hlevel hcount, hrun, ← hfile]
  rfl

lemma length_parentLevel_file {count : Nat} {level : HashLevel}
    (hsize : level.size = (verityTree sha256 salt).parents count) (bytes : List UInt8) :
    ((verityTree sha256 salt).parentLevel count bytes).length = 4096 * level.size := by
  rw [length_parentLevel, verityTree_blockSize, hsize]

/-- Levels in front of the end of the file are written inside of it. -/
lemma hashEachLevel_length {count stop start dataBlock : Nat} {levels : List HashLevel}
    {out : List UInt8 × Digest}
    (hstacked : Stacked sha256 salt count stop levels start) (hcount : count < 2 ^ 63)
    (hread : (readAt file (dataBlock * 4096) (4096 * count)).length = 4096 * count)
    (hapart : dataBlock + count ≤ start ∨ stop ≤ dataBlock) (hinside : stop * 4096 ≤ file.length)
    (hfits : ∀ level ∈ levels, level.block * 4096 < 2 ^ 63) (hdata : dataBlock * 4096 < 2 ^ 63)
    (h : hashEachLevel sha256 salt false file digest dataBlock count levels = .ok out) :
    out.1.length = file.length := by
  induction levels generalizing count stop dataBlock digest file with
  | nil => rw [← Except.ok.inj h]
  | cons level above ih =>
    obtain ⟨hsize, hstop, habove⟩ := hstacked
    have hstart := habove.start_le
    have hlevel := hfits level List.mem_cons_self
    have hbelow : level.block * 4096 ≤ file.length :=
      Nat.le_trans (Nat.mul_le_mul_right 4096 (by omega)) hinside
    obtain ⟨d, hstep⟩ := @hashEachLevel_create_step sha256 salt file digest count dataBlock level
      above hsize hcount
      hdata hlevel hread (by omega)
    rw [hstep] at h
    have hlong := length_parentLevel_file hsize (readAt file (dataBlock * 4096) (4096 * count))
    have hsame : (overwrite 0 file (level.block * 4096) ((verityTree sha256 salt).parentLevel count
        (readAt file (dataBlock * 4096) (4096 * count)))).length = file.length := by
      by_cases hnil :
        (verityTree sha256 salt).parentLevel count
        (readAt file (dataBlock * 4096) (4096 * count)) = []
      · rw [hnil, overwrite_nil]
      · rw [length_overwrite hnil, hlong]
        omega
    have hback :=
      readAt_overwrite 0 file (level.block * 4096) ((verityTree sha256 salt).parentLevel count
      (readAt file (dataBlock * 4096) (4096 * count)))
    rw [hlong] at hback
    have hsmall : level.size < 2 ^ 63 := by
      rw [hsize, verityTree_parents]
      omega
    have hreadable :
        (readAt (overwrite 0 file (level.block * 4096) ((verityTree sha256 salt).parentLevel count
        (readAt file (dataBlock * 4096) (4096 * count)))) (level.block * 4096)
          (4096 * level.size)).length =
          4096 * level.size := by
      rw [hback, hlong]
    have hrest := ih habove hsmall hreadable (.inr (Nat.le_refl _)) (by rw [hsame]; exact hbelow)
      (fun other hother => hfits other (List.mem_cons_of_mem _ hother)) hlevel h
    rw [hrest, hsame]

/-- The lowest level reaches to the end of the hash area. -/
lemma hashEachLevel_end {n stop : Nat} {level : HashLevel} {above : List HashLevel}
    {out : List UInt8 × Digest}
    (hstacked : Stacked sha256 salt n stop (level :: above) n) (hpos : 0 < n) (hsmall : n < 2 ^ 63)
    (hfile : file.length = 4096 * n) (hfits : ∀ other ∈ level :: above, other.block * 4096 < 2 ^ 63)
    (h : hashEachLevel sha256 salt false file digest 0 n (level :: above) = .ok out) :
    out.1.length = 4096 * stop := by
  obtain ⟨hsize, hstop, habove⟩ := hstacked
  have hstart := habove.start_le
  have hlevel := hfits level List.mem_cons_self
  have hread : (readAt file (0 * 4096) (4096 * n)).length = 4096 * n :=
    length_readAt_of_le (by omega)
  obtain ⟨d, hstep⟩ := @hashEachLevel_create_step sha256 salt file digest n 0 level above hsize
    hsmall (by decide) hlevel
    hread (by omega)
  rw [hstep] at h
  have hlong := length_parentLevel_file hsize (readAt file (0 * 4096) (4096 * n))
  have hparents : 0 < level.size := by
    rw [hsize, verityTree_parents]
    omega
  have hwritten : (overwrite 0 file (level.block * 4096) ((verityTree sha256 salt).parentLevel n
      (readAt file (0 * 4096) (4096 * n)))).length = 4096 * stop := by
    rw [length_overwrite (List.ne_nil_of_length_pos (by omega)), hlong]
    omega
  have hback := readAt_overwrite 0 file (level.block * 4096) ((verityTree sha256 salt).parentLevel n
    (readAt file (0 * 4096) (4096 * n)))
  rw [hlong] at hback
  have hcount : level.size < 2 ^ 63 := by
    rw [hsize, verityTree_parents]
    omega
  have hreadable :
      (readAt (overwrite 0 file (level.block * 4096) ((verityTree sha256 salt).parentLevel n
      (readAt file (0 * 4096) (4096 * n)))) (level.block * 4096) (4096 * level.size)).length =
        4096 * level.size := by
    rw [hback, hlong]
  have hrest := hashEachLevel_length habove hcount hreadable (.inr (Nat.le_refl _))
    (by rw [hwritten]; omega)
    (fun other hother => hfits other (List.mem_cons_of_mem _ hother)) hlevel h
  rw [hrest, hwritten]

end Levels

section Files

variable {sha256 : List UInt8 → Digest} {salt file : List UInt8}

/-- Bytes behind the end of the file change no read inside of it. -/
lemma keptOutside_append (file tail : List UInt8) : KeptOutside file (file ++ tail) 0 0 := by
  intro pos len hin _
  rw [length_readAt] at hin
  apply readAt_congr
  intro k hk
  exact List.getElem?_append_left (by omega)

lemma LevelsHashed.append {dataBlock count : Nat} {levels : List HashLevel} (tail : List UInt8)
    (h : LevelsHashed sha256 salt file dataBlock count levels) :
    LevelsHashed sha256 salt (file ++ tail) dataBlock count levels := by
  induction levels generalizing dataBlock count with
  | nil => trivial
  | cons level above ih =>
    exact ⟨h.1.kept (keptOutside_append file tail) (.inr (Nat.zero_le _)) (Nat.zero_le _), ih h.2⟩

lemma VerifiedFile.append {n stop : Nat} {root : List UInt8} {levels : List HashLevel}
    (tail : List UInt8)
    (h : VerifiedFile sha256 salt file n root levels stop) :
    VerifiedFile sha256 salt (file ++ tail) n root levels stop := by
  have hread := keptOutside_append file tail 0 (4096 * n) h.readable (.inr (Nat.zero_le _))
  have htop := keptOutside_append file tail (topBlock 0 levels * 4096) 4096
    (length_readAt_of_le h.top)
    (.inr (by omega))
  refine ⟨h.pos, h.small,
    h.layout, by rw [hread, h.readable], h.hashed.append tail, ?_, by rw [htop, h.root]⟩
  rw [List.length_append]
  exact Nat.le_trans h.top (Nat.le_add_right _ _)

/-- A hash tree was created over all of a file: the data are in front of it, the file ends with it,
and its positions can be reached. -/
structure CreatedTree (sha256 : List UInt8 → Digest) (salt file : List UInt8) (n : Nat)
    (created : HashResult)
    (levels : List HashLevel) : Prop where
  verified : VerifiedFile sha256 salt created.file n created.digest.bytes levels
    created.combinedBlocks
  fits : ∀ level ∈ levels, level.block * 4096 < 2 ^ 63
  top : topBlock 0 levels * 4096 < 2 ^ 63
  area : created.combinedBlocks * 4096 < 2 ^ 64
  data : readAt created.file 0 (4096 * n) = file
  length : created.file.length = 4096 * created.combinedBlocks
  start : n < created.combinedBlocks
  reach : n * 4096 < 2 ^ 63

/-- More than one block has at least one level. -/
lemma levels_of_blocks {n stop : Nat} {levels : List HashLevel} (hn : 2 ≤ n) (hsmall : n < 2 ^ 52)
    (hlayout : hashLevels n = .ok (levels, stop)) : ∃ level above, levels = level :: above := by
  cases levels with
  | nil =>
    have hone := one_of_no_levels (by omega) hsmall hlayout rfl
    omega
  | cons level above => exact ⟨level, above, rfl⟩

theorem rVerityHashCreate_inv {n : Nat} {created : HashResult} (hn : 2 ≤ n)
    (hfile : file.length = 4096 * n)
    (h : rVerityHashCreate sha256 file n salt = .ok created) :
    ∃ levels, CreatedTree sha256 salt file n created levels := by
  unfold rVerityHashCreate at h
  cases @verityCreateOrVerifyHash_early sha256 salt file false n with
  | inl hearly =>
    obtain ⟨e, hfail, -⟩ := hearly
    rw [hfail] at h
    exact absurd h (by simp)
  | inr hlevels =>
    obtain ⟨hpos, hsmall, levels, stop, hlayout, hstop, -⟩ := hlevels
    have hone := one_of_no_levels hpos hsmall hlayout
    obtain ⟨hstacked, hcount⟩ := @hashLevels_spec sha256 salt n hpos hsmall levels stop hlayout
    have hread : (readAt file (0 * 4096) (4096 * n)).length = 4096 * n :=
      length_readAt_of_le (by omega)
    rw [verityCreateOrVerifyHash_eq hsmall hlayout hstop hone] at h
    cases @hashEachLevel_create sha256 salt file n stop n 0 levels ⟨List.replicate 32 0, rfl⟩
        hstacked (by omega) hread
        (Or.inl (by omega)) stop (by omega) (Nat.le_refl _) with
    | inl hover =>
      obtain ⟨e, hfail, -⟩ := hover
      rw [hfail] at h
      exact absurd h (by simp [Except.bind])
    | inr hdone =>
      obtain ⟨file', d, hrun, hfits, hhashed, hkept⟩ := hdone
      rw [hrun] at h
      change Except.bind (createOrVerify sha256 salt false false file' d (topBlock 0 levels) 0 1)
        _ = _ at h
      by_cases htop : topBlock 0 levels * 4096 < 2 ^ 63
      · rw [createOrVerify_root htop] at h
        obtain ⟨level, above, rfl⟩ := levels_of_blocks hn hsmall hlayout
        have hend := hashEachLevel_end hstacked hpos (by omega) hfile hfits hrun
        obtain ⟨hsize, hlowest, habove⟩ := hstacked
        rw [verityTree_parents] at hsize
        have hlow := habove.start_le
        have hfirst := hfits level List.mem_cons_self
        have hdata : readAt file' 0 (4096 * n) = file := by
          rw [Nat.zero_mul] at hread
          rw [hkept 0 (4096 * n) hread (Or.inl (by omega)), ← hfile]
          exact List.take_length
        by_cases htopread : topBlock 0 (level :: above) * 4096 + 4096 ≤ file'.length
        · rw [if_pos htopread] at h
          rw [← Except.ok.inj h]
          have hreadable : (readAt file' 0 (4096 * n)).length = 4096 * n := by rw [hdata, hfile]
          have hstart : n < stop := by omega
          have hreach : n * 4096 < 2 ^ 63 :=
            Nat.lt_of_le_of_lt (Nat.mul_le_mul_right 4096 hlow) hfirst
          exact ⟨level :: above, ⟨hpos, hsmall, hlayout, hreadable, hhashed, htopread, rfl⟩, hfits,
            htop, hstop, hdata,
            hend, hstart, hreach⟩
        · rw [if_neg htopread] at h
          exact absurd h (by simp [Except.bind])
      · obtain ⟨e, hfail, -⟩ :=
          @createOrVerify_overflow sha256 salt file' d false (topBlock 0 levels) 0 1
          (fun hfits => htop hfits.1) false (Or.inr rfl)
        rw [hfail] at h
        exact absurd h (by simp [Except.bind])

/-- The payload is accepted with everything that is appended to it. -/
lemma CreatedTree.accepted {n : Nat} {created : HashResult} {levels : List HashLevel}
    (h : CreatedTree sha256 salt file n created levels) (tail : List UInt8) :
    rVerityHashVerify sha256 (created.file ++ tail) n created.digest.bytes salt = .ok () :=
  rVerityHashVerify_ok (h.verified.append tail) h.area h.fits h.top

end Files

end RaucUpdate
