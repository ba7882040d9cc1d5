import RaucUpdate.Model.BootSwitch
import Mathlib.Tactic.Ring

/-!
# Regions that are accepted, and the half that is written

What the checks of both partition tables say about a region, and where they are too weak: sums of 64
bits wrap, the size of a device is taken in sectors of the wrong size, and of the active boot
partition only the start is looked at.
-/

namespace RaucUpdate

open Library Prog

section Mbr

variable {dev : MbrDevice} {start size : Nat} {part : BootSwitchPartition}

/-- All that was checked when an inactive partition is returned. -/
structure MbrAccepted (dev : MbrDevice) (start size : Nat) (part : BootSwitchPartition) : Prop where
  behindMbr : mbrSize ≤ start
  nonempty : size ≠ 0
  startAligned : start % dev.sectorSize = 0
  sizeAligned : size % (2 * dev.sectorSize) = 0
  ends : (start + size) % 2 ^ 64 < dev.sectors % 2 ^ 32 * dev.sectorSize
  magic : dev.bytes 510 = 0x55 ∧ dev.bytes 511 = 0xAA
  free : isRegionFree start size dev.bytes dev.sectorSize (List.range 4) = .ok ()
  entry : partitionStart dev.bytes bootPartitionEntry ≠ 0
  half : inactiveHalf start size dev.sectorSize (partitionStart dev.bytes bootPartitionEntry) =
    .ok part

lemma readMbr_peeks (dev : MbrDevice) :
    Peeks dev readMbr (fun mbr => mbr = dev.bytes ∧ dev.sectors ≠ 0 ∧ dev.bytes 510 = 0x55 ∧
      dev.bytes 511 = 0xAA) := by
  unfold readMbr
  apply peeks_external
  apply peeks_read
  split_ifs with hempty hmagic
  · exact peeks_exit
  · exact peeks_exit
  · rw [not_or, not_not, not_not] at hmagic
    exact peeks_pure ⟨rfl, hempty, hmagic⟩

lemma validateRegion_peeks (dev : MbrDevice) (opened : Bool) (start size sectorSize : Nat) :
    Peeks dev (validateRegion opened start size sectorSize) (fun _ => opened = true ∧
      mbrSize ≤ start ∧ size ≠ 0 ∧
      start % sectorSize = 0 ∧ size % (2 * sectorSize) = 0 ∧
      (start + size) % 2 ^ 64 < dev.sectors % 2 ^ 32 * sectorSize) := by
  unfold validateRegion
  split_ifs with hvalid hstart hsize
  · exact peeks_exit
  · exact peeks_exit
  · exact peeks_exit
  · have hcount : Peeks dev (getNumberOfSectors opened) (fun n => opened = true ∧
        n = dev.sectors % 2 ^ 32) := by
      unfold getNumberOfSectors
      split_ifs with hopened
      · exact peeks_exit
      · apply peeks_external
        apply peeks_read
        exact peeks_pure ⟨by simpa using hopened, rfl⟩
    apply peeks_bind hcount
    rintro n ⟨hopened, rfl⟩
    split_ifs with hend
    · exact peeks_exit
    · exact peeks_pure ⟨hopened, by omega, by omega, by omega, by omega, by omega⟩

lemma rMbrSwitchGetInactivePartition_peeks (dev : MbrDevice) (start size : Nat) :
    Peeks dev (rMbrSwitchGetInactivePartition start size) (MbrAccepted dev start size) := by
  unfold rMbrSwitchGetInactivePartition
  apply peeks_ask
  intro r
  apply peeks_read
  apply peeks_bind (validateRegion_peeks dev _ start size _)
  rintro _ ⟨hopened, hbehind, hnonempty, hstart, hsize, hend⟩
  rw [if_pos hopened] at hstart hsize hend ⊢
  apply peeks_bind (peeks_mapError (readMbr_peeks dev))
  rintro mbr ⟨rfl, -, hmagic⟩
  generalize hfree : isRegionFree start size dev.bytes dev.sectorSize (List.range 4) = free
  apply peeks_bind (Q := fun _ => free = .ok ()) (peeks_ofExcept (fun _ h => h))
  intro _ hregion
  by_cases hentry : partitionStart dev.bytes bootPartitionEntry = 0
  · rw [if_pos hentry]
    exact peeks_exit
  · rw [if_neg hentry]
    apply peeks_ofExcept
    intro part hpart
    exact ⟨hbehind, hnonempty, hstart, hsize, hend, hmagic, hfree.trans hregion, hentry, hpart⟩

lemma length_bytesAt (v : Nat → UInt8) (pos count : Nat) :
    (bytesAt v pos count).length = count := by
  unfold bytesAt
  rw [List.length_map, List.length_range]

lemma partitionStart_lt (mbr : Nat → UInt8) (i : Nat) : partitionStart mbr i < 2 ^ 32 := by
  have h := ofLittleEndian_lt (bytesAt mbr (entryOffset i + 8) 4)
  rwa [length_bytesAt] at h

lemma partitionSize_lt (mbr : Nat → UInt8) (i : Nat) : partitionSize mbr i < 2 ^ 32 := by
  have h := ofLittleEndian_lt (bytesAt mbr (entryOffset i + 12) 4)
  rwa [length_bytesAt] at h

lemma isRegionFree_ok_iff (start size : Nat) (mbr : Nat → UInt8) (sectorSize : Nat) (l : List Nat) :
    isRegionFree start size mbr sectorSize l = .ok () ↔ ∀ i ∈ l, i ≠ bootPartitionEntry →
      partitionSize mbr i ≠ 0 →
      ¬(partitionStart mbr i * sectorSize ≤ start ∧
        start ≤ partitionSize mbr i * sectorSize + partitionStart mbr i * sectorSize - 1) ∧
      ¬(start ≤ partitionStart mbr i * sectorSize ∧
        partitionStart mbr i * sectorSize ≤ (start + size - 1) % 2 ^ 64) := by
  induction l with
  | nil => simp [isRegionFree]
  | cons i rest ih =>
    rw [isRegionFree, List.forall_mem_cons]
    dsimp only
    split_ifs with hboot hempty hinside hbehind
    · rw [ih]
      exact ⟨fun h => ⟨fun hne => absurd hboot hne, h⟩, fun h => h.2⟩
    · rw [ih]
      exact ⟨fun h => ⟨fun _ hne => absurd hempty hne, h⟩, fun h => h.2⟩
    · refine ⟨fun h => by simp at h, fun h => ?_⟩
      exact absurd hinside (h.1 hboot hempty).1
    · refine ⟨fun h => by simp at h, fun h => ?_⟩
      exact absurd hbehind (h.1 hboot hempty).2
    · rw [ih]
      exact ⟨fun h => ⟨fun _ _ => ⟨hinside, hbehind⟩, h⟩, fun h => h.2⟩

end Mbr

section Gpt

variable {cxt : FdiskContext} {start size : Nat} {part : BootSwitchPartition}

structure GptAccepted (cxt : FdiskContext) (start size : Nat) (part : BootSwitchPartition) :
    Prop where
  behindTable : 34 * 512 ≤ start
  nonempty : size ≠ 0
  startAligned : start % cxt.grainSize = 0
  sizeAligned : size % (2 * cxt.grainSize) = 0
  starts : start / cxt.sectorSize < cxt.nsectors
  ends : (start + size) % 2 ^ 64 / cxt.sectorSize < cxt.nsectors
  free : ∀ pa ∈ cxt.partitions, pa.partno ≠ bootPartitionEntry →
    ¬(start / cxt.sectorSize ≤ pa.last ∧
    pa.first ≤ start / cxt.sectorSize + size / cxt.sectorSize - 1)
  half : ∃ pa, cxt.bootPartition = some pa ∧ inactiveHalf start size cxt.sectorSize pa.first =
    .ok part

lemma checkPartitions_ok {first last : Nat} {l : List FdiskPartition} {found : Bool}
    (h : checkPartitions first last l found = .ok ()) :
    ∀ pa ∈ l, pa.partno ≠ bootPartitionEntry → ¬(first ≤ pa.last ∧ pa.first ≤ last) := by
  induction l generalizing found with
  | nil => simp
  | cons pa rest ih =>
    rw [checkPartitions] at h
    rw [List.forall_mem_cons]
    split_ifs at h with hboot hoverlap
    · exact ⟨fun hne => absurd hboot hne, ih h⟩
    · exact ⟨fun _ => hoverlap, ih h⟩

lemma checkRegion_peeks (cxt : FdiskContext) (start size : Nat) :
    Peeks cxt (checkRegion cxt start size) (fun _ => 34 * 512 ≤ start ∧ size ≠ 0 ∧
      start % cxt.grainSize = 0 ∧
      size % (2 * cxt.grainSize) = 0 ∧ start / cxt.sectorSize < cxt.nsectors ∧
      (start + size) % 2 ^ 64 / cxt.sectorSize < cxt.nsectors ∧
      ∀ pa ∈ cxt.partitions, pa.partno ≠ bootPartitionEntry → ¬(start / cxt.sectorSize ≤ pa.last ∧
        pa.first ≤ start / cxt.sectorSize + size / cxt.sectorSize - 1)) := by
  unfold checkRegion
  split_ifs with hvalid hstart hsize hbegin hend
  · exact peeks_exit
  · exact peeks_exit
  · exact peeks_exit
  · exact peeks_exit
  · exact peeks_exit
  · apply peeks_external
    apply peeks_ofExcept
    intro _ hok
    exact ⟨by omega, by omega, by omega, by omega, by omega, by omega, checkPartitions_ok hok⟩

lemma checkGpt_peeks (cxt : FdiskContext) : Peeks cxt (checkGpt cxt) (fun _ => True) := by
  unfold checkGpt
  split_ifs
  · exact peeks_exit
  · exact peeks_exit
  · exact peeks_exit
  · exact peeks_exit
  · exact peeks_exit
  · exact peeks_pure trivial

lemma rGptSwitchGetInactivePartition_peeks (cxt : FdiskContext) (device : String)
    (start size : Nat) :
    Peeks cxt (rGptSwitchGetInactivePartition device start size) (GptAccepted cxt start size) := by
  unfold rGptSwitchGetInactivePartition
  apply peeks_external
  apply peeks_read
  apply peeks_bind (checkGpt_peeks cxt)
  intro _ _
  apply peeks_bind (checkRegion_peeks cxt start size)
  rintro _ ⟨hbehind, hnonempty, hstart, hsize, hbegin, hend, hfree⟩
  apply peeks_external
  cases hboot : cxt.bootPartition with
  | none => exact peeks_exit
  | some pa =>
    apply peeks_ofExcept
    intro part hpart
    exact ⟨hbehind, hnonempty, hstart, hsize, hbegin, hend, hfree, pa, hboot, hpart⟩

/-- Regions are made of whole sectors. -/
lemma GptAccepted.sectors (h : GptAccepted cxt start size part) :
    cxt.sectorSize ∣ start ∧ 2 * cxt.sectorSize ∣ size := by
  have hgrain := cxt.grain.2
  exact ⟨hgrain.trans (Nat.dvd_of_mod_eq_zero h.startAligned),
    (Nat.mul_dvd_mul_left 2 hgrain).trans (Nat.dvd_of_mod_eq_zero h.sizeAligned)⟩

end Gpt

section Regions

/-- The region lies in the device and behind the partition table, and apart from the other
partitions. Nothing of this wraps. -/
structure RegionSafe (deviceSize tableEnd : Nat) (Others : Nat → Nat → Prop) (start size : Nat) :
    Prop where
  inside : start + size ≤ deviceSize
  behindTable : tableEnd ≤ start
  apart : ∀ low high, Others low high → start + size ≤ low ∨ high ≤ start

/-- The bytes of the partitions in an MBR that are not empty, except for the boot partition. -/
def MbrDevice.Others (dev : MbrDevice) (low high : Nat) : Prop :=
  ∃ i < 4, i ≠ bootPartitionEntry ∧ partitionSize dev.bytes i ≠ 0 ∧
    low = partitionStart dev.bytes i * dev.sectorSize ∧
    high = (partitionStart dev.bytes i + partitionSize dev.bytes i) * dev.sectorSize

def FdiskContext.Others (cxt : FdiskContext) (low high : Nat) : Prop :=
  ∃ pa ∈ cxt.partitions, pa.partno ≠ bootPartitionEntry ∧ pa.first ≤ pa.last ∧
    low = pa.first * cxt.sectorSize ∧ high = (pa.last + 1) * cxt.sectorSize

/-- The end of the table at the start of a GPT: the protective MBR and the header with a sector
each, and the entries of 128 bytes. -/
def FdiskContext.tableEnd (cxt : FdiskContext) : Nat := 2 * cxt.sectorSize + cxt.entries * 128

variable {start size : Nat}

lemma MbrAccepted.regionSafe_iff {dev : MbrDevice} {part : BootSwitchPartition}
    (h : MbrAccepted dev start size part) :
    RegionSafe (dev.sectors * 512) mbrSize dev.Others start size ↔
      start + size < 2 ^ 64 ∧ (dev.sectorSize = 512 ∨ start + size ≤ dev.sectors * 512) := by
  have hdevice := dev.size
  constructor
  · intro hsafe
    have := hsafe.inside
    exact ⟨by omega, .inr this⟩
  · rintro ⟨hwrap, hsize⟩
    have hends := h.ends
    rw [Nat.mod_eq_of_lt hwrap] at hends
    refine ⟨?_, h.behindMbr, ?_⟩
    · rcases hsize with hsize | hsize
      · rw [hsize] at hends
        omega
      · exact hsize
    · rintro low high ⟨i, hi, hboot, hnonempty, rfl, rfl⟩
      have hnonzero := h.nonempty
      obtain ⟨hinside, hbehind⟩ :=
        (isRegionFree_ok_iff start size dev.bytes dev.sectorSize _).mp h.free i
        (List.mem_range.mpr hi) hboot hnonempty
      rw [Nat.mod_eq_of_lt (by omega)] at hbehind
      have hpositive : 0 < partitionSize dev.bytes i * dev.sectorSize := by
        have := dev.sector
        exact Nat.mul_pos (by omega) (by omega)
      rw [Nat.add_mul]
      omega

lemma GptAccepted.regionSafe_iff {cxt : FdiskContext} {part : BootSwitchPartition}
    (h : GptAccepted cxt start size part) :
    RegionSafe (cxt.nsectors * cxt.sectorSize) cxt.tableEnd cxt.Others start size ↔
      start + size < 2 ^ 64 ∧ ((cxt.sectorSize = 512 ∧ cxt.entries ≤ 128) ∨ cxt.tableEnd ≤
        start) := by
  have hdevice := cxt.size
  have hpositive : 0 < cxt.sectorSize := by
    have := cxt.sector
    omega
  constructor
  · intro hsafe
    have := hsafe.inside
    exact ⟨by omega, .inr hsafe.behindTable⟩
  · rintro ⟨hwrap, htable⟩
    have hends := h.ends
    rw [Nat.mod_eq_of_lt hwrap, Nat.div_lt_iff_lt_mul hpositive] at hends
    have hbehind := h.behindTable
    refine ⟨by omega, ?_, ?_⟩
    · rcases htable with ⟨hsector, hentries⟩ | htable
      · unfold FdiskContext.tableEnd
        omega
      · exact htable
    · rintro low high ⟨pa, hpa, hboot, hle, rfl, rfl⟩
      have hfree := h.free pa hpa hboot
      obtain ⟨⟨first, hfirst⟩, ⟨half, hhalf⟩⟩ := h.sectors
      have hnonempty := h.nonempty
      have hstart : start / cxt.sectorSize = first := by
        rw [hfirst, Nat.mul_div_cancel_left _ hpositive]
      have hsize : size / cxt.sectorSize = 2 * half := by
        rw [hhalf, show 2 * cxt.sectorSize * half =
          cxt.sectorSize * (2 * half) by ring, Nat.mul_div_cancel_left _ hpositive]
      rw [hstart, hsize] at hfree
      have hhalfpos : half ≠ 0 := by
        rintro rfl
        exact hnonempty hhalf
      by_cases hbefore : first ≤ pa.last
      · have hlate : first + 2 * half ≤ pa.first := by omega
        have := Nat.mul_le_mul_right cxt.sectorSize hlate
        left
        calc start + size = (first + 2 * half) * cxt.sectorSize := by rw [hfirst, hhalf]; ring
          _ ≤ pa.first * cxt.sectorSize := this
      · right
        rw [hfirst, Nat.mul_comm cxt.sectorSize]
        exact Nat.mul_le_mul_right _ (by omega)

/-- An accepted region is safe unless its end wraps, the size of the device is counted in units of
4096 bytes, or the table of a GPT is longer than the one with sectors of 512 bytes and 128
entries. -/
theorem acceptedRegion_safe_iff (start size : Nat) :
    (∀ (w : World MbrDevice) (part : BootSwitchPartition),
      (rMbrSwitchGetInactivePartition start size w).1 = .value part →
        (RegionSafe (w.state.sectors * 512) mbrSize w.state.Others start size ↔
          start + size < 2 ^ 64 ∧ (w.state.sectorSize = 512 ∨ start + size ≤
            w.state.sectors * 512))) ∧
    (∀ (device : String) (w : World FdiskContext) (part : BootSwitchPartition),
      (rGptSwitchGetInactivePartition device start size w).1 = .value part →
        (RegionSafe (w.state.nsectors * w.state.sectorSize) w.state.tableEnd w.state.Others
          start size ↔
          start + size < 2 ^ 64 ∧
            ((w.state.sectorSize = 512 ∧ w.state.entries ≤ 128) ∨ w.state.tableEnd ≤ start))) := by
  constructor
  · intro w part hrun
    exact ((rMbrSwitchGetInactivePartition_peeks w.state start size).value rfl
      hrun).2.regionSafe_iff
  · intro device w part hrun
    exact ((rGptSwitchGetInactivePartition_peeks w.state device start size).value rfl
      hrun).2.regionSafe_iff

/-- An MBR with nothing but the boot partition. -/
def bootOnlyMbr (bootStart bootSize : Nat) : Nat → UInt8 :=
  writeAt (writeAt (writeAt (fun _ => 0) (entryOffset 0 + 8) (littleEndian 4 bootStart))
    (entryOffset 0 + 12)
    (littleEndian 4 bootSize)) 510 [0x55, 0xAA]

/-- A device of 64 MiB with sectors of 512 bytes. -/
def smallSectorDisk (bootSize : Nat) : MbrDevice where
  bytes := bootOnlyMbr 2048 bootSize
  sectors := 131072
  sector := .inl rfl
  size := by decide

/-- The same device with a GPT, and a second partition behind the first 32 MiB. -/
def gptDisk (bootLast : Nat) : FdiskContext where
  grainSize := 1048576
  sectorSize := 512
  nsectors := 131072
  partitions := [⟨0, 2048, bootLast⟩, ⟨1, 65536, 131038⟩]
  sector := .inl rfl
  grain := ⟨by decide, by decide⟩
  size := by decide

theorem acceptedRegion_safe_on_disks :
    RegionSafe ((smallSectorDisk 8192).sectors * 512) mbrSize (smallSectorDisk 8192).Others
      (2 ^ 20) (2 ^ 23) ∧
      RegionSafe ((gptDisk 10239).nsectors * (gptDisk 10239).sectorSize) (gptDisk 10239).tableEnd
        (gptDisk 10239).Others (2 ^ 20) (2 ^ 23) :=
  ⟨((acceptedRegion_safe_iff (2 ^ 20) (2 ^ 23)).1 (calm (smallSectorDisk 8192)) ⟨2 ^ 20 + 2 ^ 22,
      2 ^ 22⟩ rfl).mpr
      ⟨by decide, .inl rfl⟩,
    ((acceptedRegion_safe_iff (2 ^ 20) (2 ^ 23)).2 "/dev/mmcblk0" (calm (gptDisk 10239))
      ⟨2 ^ 20 + 2 ^ 22, 2 ^ 22⟩
      rfl).mpr ⟨by decide, .inl ⟨rfl, by decide⟩⟩⟩

/-- A device of 64 MiB with sectors of 4096 bytes. -/
def largeSectorDisk : MbrDevice where
  bytes := bootOnlyMbr 256 16384
  sectors := 131072
  sectorSize := 4096
  sector := .inr rfl
  size := by decide

/-- The region of 128 MiB behind the first MiB is accepted, and ends behind the device. -/
theorem largeSectorDisk_region_unsafe :
    (rMbrSwitchGetInactivePartition (2 ^ 20) (2 ^ 27) (calm largeSectorDisk)).1 =
        .value ⟨2 ^ 20 + 2 ^ 26, 2 ^ 26⟩ ∧
      ¬RegionSafe (largeSectorDisk.sectors * 512) mbrSize largeSectorDisk.Others (2 ^ 20)
        (2 ^ 27) := by
  constructor
  · rfl
  · intro hsafe
    exact absurd hsafe.inside (by decide)

end Regions

section Halves

/-- No byte belongs to the partition and to the given bytes. -/
def BootSwitchPartition.Apart (part : BootSwitchPartition) (low high : Nat) : Prop :=
  ∀ b, ¬((part.start ≤ b ∧ b < part.start + part.size) ∧ low ≤ b ∧ b < high)

variable {start size : Nat} {part : BootSwitchPartition}

/-- The two cases in which there is an inactive half. -/
lemma inactiveHalf_cases {sectorSize bootStart : Nat}
    (h : inactiveHalf start size sectorSize bootStart = .ok part) :
    (start / sectorSize = bootStart ∧ part = ⟨(start + size / 2) % 2 ^ 64, size / 2⟩) ∨
      (start / sectorSize ≠ bootStart ∧ (start + size / 2) % 2 ^ 64 / sectorSize = bootStart ∧
        part = ⟨start, size / 2⟩) := by
  unfold inactiveHalf at h
  split_ifs at h with hfirst hsecond
  · exact .inl ⟨hfirst, (Except.ok.inj h).symm⟩
  · exact .inr ⟨hfirst, hsecond, (Except.ok.inj h).symm⟩

/-- A partition at the start of the region is apart from the second half if it is not longer than
the first one. -/
lemma secondHalf_apart_iff {count : Nat} (hsize : size / 2 ≠ 0) :
    BootSwitchPartition.Apart ⟨start + size / 2, size / 2⟩ start (start + count) ↔
      count ≤ size / 2 := by
  constructor
  · intro hapart
    have := hapart (start + size / 2)
    dsimp only at this
    omega
  · rintro hle b ⟨⟨hlow, -⟩, -, hhigh⟩
    dsimp only at hlow
    omega

/-- Only a boot partition at the start of the region can reach into the inactive half. -/
lemma inactiveHalf_apart_iff {sectorSize bootStart count : Nat}
    (h : inactiveHalf start size sectorSize bootStart = .ok part) (hstart : sectorSize ∣ start)
    (hsize : 2 * sectorSize ∣ size) (hnonempty : size ≠ 0) (hlimit : size < 2 ^ 64)
    (hroom : bootStart * sectorSize + count < 2 ^ 63 ∨ start < 2 ^ 63) :
    part.Apart (bootStart * sectorSize) (bootStart * sectorSize + count) ↔
      start / sectorSize ≠ bootStart ∨ count ≤ size / 2 := by
  obtain ⟨half, rfl⟩ := hsize
  have hhalf : 2 * sectorSize * half / 2 = sectorSize * half := by
    rw [Nat.mul_assoc, Nat.mul_div_cancel_left _ (by decide)]
  rcases inactiveHalf_cases h with ⟨hfirst, rfl⟩ | ⟨hfirst, hsecond, rfl⟩
  · have hboot : bootStart * sectorSize = start := by rw [← hfirst, Nat.div_mul_cancel hstart]
    rw [hboot] at hroom ⊢
    rw [Nat.mod_eq_of_lt (by omega), secondHalf_apart_iff
      (by rw [hhalf]; rw [Nat.mul_assoc] at hnonempty; omega)]
    exact ⟨.inr, fun hcases => hcases.resolve_left (not_not_intro hfirst)⟩
  · refine ⟨fun _ => .inl hfirst, ?_⟩
    rintro - b ⟨⟨hlow, hhigh⟩, hboot, hend⟩
    dsimp only at hlow hhigh
    by_cases hwrap : start + 2 * sectorSize * half / 2 < 2 ^ 64
    · rw [Nat.mod_eq_of_lt hwrap] at hsecond
      have hdvd : sectorSize ∣ start + 2 * sectorSize * half / 2 := by
        rw [hhalf]
        exact Nat.dvd_add hstart (Nat.dvd_mul_right _ _)
      rw [← hsecond, Nat.div_mul_cancel hdvd] at hboot
      omega
    · omega

/-- No byte of the partition belongs to the boot partition that the table refers to. -/
def MbrDevice.BootApart (dev : MbrDevice) (part : BootSwitchPartition) : Prop :=
  part.Apart (partitionStart dev.bytes bootPartitionEntry * dev.sectorSize)
    ((partitionStart dev.bytes bootPartitionEntry + partitionSize dev.bytes bootPartitionEntry) *
      dev.sectorSize)

lemma MbrAccepted.bootApart_iff {dev : MbrDevice} (h : MbrAccepted dev start size part)
    (hlimit : size < 2 ^ 64) :
    dev.BootApart part ↔ start / dev.sectorSize ≠ partitionStart dev.bytes bootPartitionEntry ∨
      partitionSize dev.bytes bootPartitionEntry * dev.sectorSize ≤ size / 2 := by
  have hsector := dev.sector
  have hbootStart := partitionStart_lt dev.bytes bootPartitionEntry
  have hbootSize := partitionSize_lt dev.bytes bootPartitionEntry
  unfold MbrDevice.BootApart
  rw [Nat.add_mul]
  apply inactiveHalf_apart_iff h.half (Nat.dvd_of_mod_eq_zero h.startAligned)
    (Nat.dvd_of_mod_eq_zero h.sizeAligned)
    h.nonempty hlimit
  left
  rcases hsector with hsector | hsector
  · rw [hsector]
    omega
  · rw [hsector]
    omega

/-- The same for the first partition that libfdisk reports for the boot entry. -/
def FdiskContext.BootApart (cxt : FdiskContext) (part : BootSwitchPartition) : Prop :=
  ∀ pa, cxt.bootPartition = some pa → part.Apart (pa.first * cxt.sectorSize)
    ((pa.last + 1) * cxt.sectorSize)

lemma GptAccepted.bootApart_iff {cxt : FdiskContext} (h : GptAccepted cxt start size part)
    (hlimit : size < 2 ^ 64) :
    cxt.BootApart part ↔ ∀ pa, cxt.bootPartition = some pa →
      start / cxt.sectorSize ≠ pa.first ∨ (pa.last + 1 - pa.first) * cxt.sectorSize ≤ size / 2 := by
  have hsector := cxt.sector
  have hdevice := cxt.size
  obtain ⟨hstart, hsize⟩ := h.sectors
  obtain ⟨pa, hboot, hhalf⟩ := h.half
  have hbegin : start < 2 ^ 63 := by
    have := (Nat.div_lt_iff_lt_mul (by omega)).mp h.starts
    omega
  unfold FdiskContext.BootApart
  rw [hboot]
  simp only [Option.some.injEq, forall_eq']
  rw [← inactiveHalf_apart_iff hhalf hstart hsize h.nonempty hlimit (.inr hbegin), Nat.sub_mul]
  apply forall_congr'
  intro b
  generalize pa.first * cxt.sectorSize = low
  generalize (pa.last + 1) * cxt.sectorSize = high
  omega

/-- The inactive partition is apart from the boot partition unless this one starts with the region
and is longer than half of it. -/
theorem inactivePartition_apart_iff (start size : Nat) (hlimit : size < 2 ^ 64) :
    (∀ (w : World MbrDevice) (part : BootSwitchPartition),
      (rMbrSwitchGetInactivePartition start size w).1 = .value part →
        (w.state.BootApart part ↔
          start / w.state.sectorSize ≠ partitionStart w.state.bytes bootPartitionEntry ∨
            partitionSize w.state.bytes bootPartitionEntry * w.state.sectorSize ≤ size / 2)) ∧
    (∀ (device : String) (w : World FdiskContext) (part : BootSwitchPartition),
      (rGptSwitchGetInactivePartition device start size w).1 = .value part →
        (w.state.BootApart part ↔ ∀ pa, w.state.bootPartition = some pa →
          start / w.state.sectorSize ≠ pa.first ∨
            (pa.last + 1 - pa.first) * w.state.sectorSize ≤ size / 2)) := by
  constructor
  · intro w part hrun
    exact ((rMbrSwitchGetInactivePartition_peeks w.state start size).value rfl
      hrun).2.bootApart_iff hlimit
  · intro device w part hrun
    exact ((rGptSwitchGetInactivePartition_peeks w.state device start size).value rfl
      hrun).2.bootApart_iff hlimit

theorem inactivePartition_apart_on_disks :
    (smallSectorDisk 8192).BootApart ⟨2 ^ 20 + 2 ^ 22, 2 ^ 22⟩ ∧
      (gptDisk 10239).BootApart ⟨2 ^ 20 + 2 ^ 22, 2 ^ 22⟩ := by
  obtain ⟨hmbr, hgpt⟩ := inactivePartition_apart_iff (2 ^ 20) (2 ^ 23) (by decide)
  constructor
  · exact (hmbr (calm (smallSectorDisk 8192)) _ rfl).mpr (.inr (by decide))
  · apply (hgpt "/dev/mmcblk0" (calm (gptDisk 10239)) _ rfl).mpr
    intro pa hpa
    obtain rfl : ⟨0, 2048, 10239⟩ = pa := Option.some.inj hpa
    exact .inr (by decide)

/-- A boot partition that takes the whole region: both checks accept it, and its second half is to
be written. -/
theorem longBootPartition_not_apart :
    ((rMbrSwitchGetInactivePartition (2 ^ 20) (2 ^ 23) (calm (smallSectorDisk 16384))).1 =
        .value ⟨2 ^ 20 + 2 ^ 22, 2 ^ 22⟩ ∧ ¬(smallSectorDisk 16384).BootApart
          ⟨2 ^ 20 + 2 ^ 22, 2 ^ 22⟩) ∧
    ((rGptSwitchGetInactivePartition "/dev/mmcblk0" (2 ^ 20) (2 ^ 23) (calm (gptDisk 18431))).1 =
        .value ⟨2 ^ 20 + 2 ^ 22, 2 ^ 22⟩ ∧ ¬(gptDisk 18431).BootApart ⟨2 ^ 20 + 2 ^ 22,
          2 ^ 22⟩) := by
  refine ⟨⟨rfl, fun hapart => ?_⟩, rfl, fun hapart => ?_⟩
  · exact hapart (2 ^ 20 + 2 ^ 22) (by decide)
  · exact hapart ⟨0, 2048, 18431⟩ rfl (2 ^ 20 + 2 ^ 22) (by decide)

end Halves

end RaucUpdate
