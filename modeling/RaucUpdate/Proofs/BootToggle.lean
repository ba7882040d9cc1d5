import RaucUpdate.Proofs.BootSwitch
import Mathlib.Data.Nat.ModEq

/-!
# Switching the boot partition of an MBR

What `rMbrSwitchSetBootPartition` writes into the boot entry is what the next call of
`rMbrSwitchGetInactivePartition` reads from it, so the two halves of a region take turns.
-/

namespace RaucUpdate

open Library Prog

section Entry

variable {dev : MbrDevice} {mbr updated : Nat → UInt8} {part : BootSwitchPartition}

/-- The bytes of the boot entry, except for its flag and its type. -/
def EntryField (b : Nat) : Prop :=
  entryOffset bootPartitionEntry < b ∧ b < entryOffset bootPartitionEntry + 16 ∧
    b ≠ entryOffset bootPartitionEntry + 4

lemma bytesAt_congr {v v' : Nat → UInt8} {pos count : Nat}
    (h : ∀ k < count, v (pos + k) = v' (pos + k)) :
    bytesAt v pos count = bytesAt v' pos count :=
  List.map_congr_left (fun k hk => h k (List.mem_range.mp hk))

lemma bytesAt_of_stored {v : Nat → UInt8} {pos : Nat} {bytes : List UInt8}
    (h : Stored v pos bytes) :
    bytesAt v pos bytes.length = bytes := by
  unfold bytesAt
  apply List.ext_getElem
  · rw [List.length_map, List.length_range]
  · intro k hk hk'
    rw [List.getElem_map, List.getElem_range]
    exact h k _ (List.getElem?_eq_getElem hk')

lemma ofLittleEndian_of_stored {v : Nat → UInt8} {pos n : Nat}
    (h : Stored v pos (littleEndian 4 n)) (hn : n < 2 ^ 32) :
    ofLittleEndian (bytesAt v pos 4) = n := by
  have hbytes := bytesAt_of_stored h
  rw [length_littleEndian] at hbytes
  rw [hbytes, ofLittleEndian_littleEndian (by omega)]

lemma writeChs_outside {pos lba b : Nat} {heads sectors : UInt8} (h : b < pos ∨ pos + 3 ≤ b) :
    writeChs mbr pos lba heads sectors b = mbr b := by
  unfold writeChs
  split_ifs
  · rfl
  · exact writeAt_outside h

/-- The entry that is made for a partition, and what stays as it was. -/
lemma getRawPartitionEntry_ok (h : getRawPartitionEntry dev mbr part = .ok updated) :
    part.start % dev.sectorSize = 0 ∧ part.size % dev.sectorSize = 0 ∧
      partitionStart updated bootPartitionEntry = part.start / dev.sectorSize % 2 ^ 32 ∧
      partitionSize updated bootPartitionEntry = part.size / dev.sectorSize % 2 ^ 32 ∧
      ∀ b, ¬EntryField b → updated b = mbr b := by
  unfold getRawPartitionEntry at h
  split_ifs at h with haligned
  obtain ⟨hstart, hsize⟩ := not_or.mp haligned
  generalize hfirst : part.start / dev.sectorSize % 2 ^ 32 = first at h
  generalize hcount : part.size / dev.sectorSize % 2 ^ 32 = count at h
  have hentry : entryOffset bootPartitionEntry = 446 := rfl
  have hfield : ∀ b, EntryField b ↔ 446 < b ∧ b < 462 ∧ b ≠ 450 := fun _ => Iff.rfl
  obtain rfl := Except.ok.inj h
  rw [hentry]
  refine ⟨not_not.mp hstart, not_not.mp hsize, ?_, ?_, ?_⟩
  · apply ofLittleEndian_of_stored _ (by omega)
    apply (stored_writeAt mbr 454 (littleEndian 4 first)).congr
    intro k hk
    rw [length_littleEndian] at hk
    rw [writeChs_outside (by omega), writeChs_outside (by omega), writeAt_outside (by omega)]
  · apply ofLittleEndian_of_stored _ (by omega)
    apply (stored_writeAt (writeAt mbr 454 (littleEndian 4 first)) 458 (littleEndian 4 count)).congr
    intro k hk
    rw [length_littleEndian] at hk
    rw [writeChs_outside (by omega), writeChs_outside (by omega)]
  · intro b hb
    rw [hfield] at hb
    rw [writeChs_outside (by omega), writeChs_outside (by omega),
      writeAt_outside (by rw [length_littleEndian]; omega),
      writeAt_outside (by rw [length_littleEndian]; omega)]

/-- Writing a whole MBR gives the bytes it was made of. -/
lemma writeAt_bytesAt {v v' : Nat → UInt8} {count : Nat} (h : ∀ b, count ≤ b → v' b = v b) :
    writeAt v 0 (bytesAt v' 0 count) = v' := by
  funext b
  by_cases hb : b < count
  · have hstored := stored_writeAt v 0 (bytesAt v' 0 count) b (v' b)
    rw [Nat.zero_add] at hstored
    apply hstored
    unfold bytesAt
    rw [List.getElem?_map, List.getElem?_range hb, Option.map_some, Nat.zero_add]
  · rw [writeAt_outside (by rw [length_bytesAt]; omega), h b (by omega)]

/-- A call writes the new entry, or leaves the device as it was. -/
lemma rMbrSwitchSetBootPartition_triple (dev : MbrDevice) (part : BootSwitchPartition) :
    Triple (· = dev) (rMbrSwitchSetBootPartition part)
      (fun _ dev' => ∃ updated, getRawPartitionEntry dev dev.bytes part = .ok updated ∧
        dev' = { dev with bytes := updated })
      (fun _ dev' => dev' = dev) := by
  unfold rMbrSwitchSetBootPartition
  refine triple_bind (triple_external_id (fun _ _ hs => hs)) (fun _ => ?_)
  refine triple_bind (peeks_mapError (readMbr_peeks dev)) (fun mbr => triple_fact ?_)
  rintro ⟨rfl, -⟩
  apply triple_read_bind
  rintro dev rfl
  have hentry : Peeks dev (mapError (GError.prefixed "Failed to create new partition entry:")
      (Prog.ofExcept (getRawPartitionEntry dev dev.bytes part)))
        (fun u => getRawPartitionEntry dev dev.bytes part = .ok u) :=
    peeks_mapError (peeks_ofExcept (fun _ h => h))
  refine triple_bind hentry (fun updated => triple_fact ?_)
  intro hupdated
  refine triple_bind (triple_external_id (fun _ _ hs => hs)) (fun _ => ?_)
  refine triple_external ?_ (fun _ hs _ => hs) (fun _ hs => hs)
  rintro dev rfl
  refine ⟨updated, hupdated, ?_⟩
  obtain ⟨-, -, -, -, hkept⟩ := getRawPartitionEntry_ok hupdated
  have hbytes : writeAt dev.bytes 0 (bytesAt updated 0 mbrSize) = updated := by
    apply writeAt_bytesAt
    intro b hb
    apply hkept
    rintro ⟨-, hfield, -⟩
    have : entryOffset bootPartitionEntry = 446 := rfl
    have : mbrSize = 512 := rfl
    omega
  rw [hbytes]

end Entry

section Turns

variable {dev : MbrDevice} {start size : Nat} {part : BootSwitchPartition}

lemma validateRegion_calm (h : MbrAccepted dev start size part) :
    validateRegion true start size dev.sectorSize (calm dev) = (.value (), calm dev) := by
  have hbehind := h.behindMbr
  have hends := h.ends
  unfold validateRegion
  rw [if_neg (by have := h.nonempty; omega), if_neg (not_not_intro h.startAligned),
    if_neg (not_not_intro h.sizeAligned)]
  have hcount : getNumberOfSectors true (calm dev) = (.value (dev.sectors % 2 ^ 32), calm dev) :=
    rfl
  rw [bind_of_value hcount, if_neg (by omega)]
  rfl

lemma readMbr_calm (h : MbrAccepted dev start size part) :
    readMbr (calm dev) = (.value dev.bytes, calm dev) := by
  have hsectors : dev.sectors ≠ 0 := by
    intro hzero
    have := h.ends
    rw [hzero, Nat.zero_mod, Nat.zero_mul] at this
    omega
  have hcalm : readMbr (calm dev) =
      ite (dev.sectors = 0) (Prog.fail ⟨.updateFailed, "Read: Success"⟩ : MbrProg (Nat → UInt8))
        (ite (dev.bytes 510 ≠ 0x55 ∨ dev.bytes 511 ≠ 0xAA)
          (Prog.fail ⟨.updateFailed, "No valid master boot record found"⟩) (Prog.pure dev.bytes))
            (calm dev) := rfl
  obtain ⟨hlow, hhigh⟩ := h.magic
  rw [hcalm, if_neg hsectors, if_neg (by rw [not_or, not_not, not_not]; exact ⟨hlow, hhigh⟩)]
  rfl

/-- Where all of it holds and no step fails, the inactive partition is returned. -/
lemma MbrAccepted.observed (h : MbrAccepted dev start size part) :
    observe (rMbrSwitchGetInactivePartition start size) dev = .value part := by
  have hask : (ask : MbrProg (Option Failure)) (calm dev) = (.value none, calm dev) := rfl
  have hread : (read : MbrProg MbrDevice) (calm dev) = (.value dev, calm dev) := rfl
  unfold observe rMbrSwitchGetInactivePartition
  rw [bind_of_value hask, bind_of_value hread]
  dsimp only [Option.isNone]
  rw [if_pos rfl, bind_of_value (validateRegion_calm h)]
  have hmbr : mapError (GError.prefixed "Failed to read MBR:") readMbr (calm dev) =
      (.value dev.bytes, calm dev) := by
    unfold mapError
    rw [readMbr_calm h]
  rw [bind_of_value hmbr]
  have hfree := h.free
  generalize isRegionFree start size dev.bytes dev.sectorSize (List.range 4) = free at hfree
  obtain rfl := hfree
  have hok : (Prog.ofExcept (.ok ()) : MbrProg Unit) (calm dev) = (.value (), calm dev) := rfl
  rw [bind_of_value hok, if_neg h.entry, h.half]
  rfl

def otherHalf (start size : Nat) (part : BootSwitchPartition) : BootSwitchPartition :=
  if part.start = start then ⟨start + size / 2, size / 2⟩ else ⟨start, size / 2⟩

lemma otherHalf_first (start size count : Nat) :
    otherHalf start size ⟨start, count⟩ = ⟨start + size / 2, size / 2⟩ := if_pos rfl

lemma otherHalf_second {start size : Nat} (h : 0 < size / 2) (count : Nat) :
    otherHalf start size ⟨start + size / 2, count⟩ = ⟨start, size / 2⟩ :=
      if_neg (by dsimp only; omega)

/-- The boot entry refers to the partition, and nothing else was changed. -/
structure SwitchedTo (part : BootSwitchPartition) (dev dev' : MbrDevice) : Prop where
  entryStart : partitionStart dev'.bytes bootPartitionEntry * dev'.sectorSize = part.start
  entrySize : partitionSize dev'.bytes bootPartitionEntry * dev'.sectorSize = part.size
  kept : ∀ b, ¬EntryField b → dev'.bytes b = dev.bytes b
  sectors : dev'.sectors = dev.sectors
  sectorSize : dev'.sectorSize = dev.sectorSize

lemma MbrAccepted.isHalf (h : MbrAccepted dev start size part) (hwrap : start + size < 2 ^ 64) :
    part = ⟨start, size / 2⟩ ∨ part = ⟨start + size / 2, size / 2⟩ := by
  rcases inactiveHalf_cases h.half with ⟨-, rfl⟩ | ⟨-, -, rfl⟩
  · rw [Nat.mod_eq_of_lt (by omega)]
    exact .inr rfl
  · exact .inl rfl

/-- The halves are made of whole sectors. -/
lemma MbrAccepted.sectors (h : MbrAccepted dev start size part) :
    0 < size / 2 ∧ dev.sectorSize ∣ start ∧ dev.sectorSize ∣ size / 2 := by
  have hsector := dev.sector
  have hnonempty := h.nonempty
  obtain ⟨half, hhalf⟩ := Nat.dvd_of_mod_eq_zero h.sizeAligned
  have hdiv : size / 2 = dev.sectorSize * half := by
    rw [hhalf, Nat.mul_assoc, Nat.mul_div_cancel_left _ (by decide)]
  refine ⟨?_, Nat.dvd_of_mod_eq_zero h.startAligned, hdiv ▸ Nat.dvd_mul_right _ _⟩
  rw [Nat.mul_assoc, ← hdiv] at hhalf
  omega

/-- The two halves take turns. -/
lemma otherHalf_otherHalf (h : MbrAccepted dev start size part) (hwrap : start + size < 2 ^ 64) :
    otherHalf start size (otherHalf start size part) = part := by
  have hhalf := h.sectors.1
  rcases h.isHalf hwrap with rfl | rfl
  · rw [otherHalf_first, otherHalf_second hhalf]
  · rw [otherHalf_second hhalf, otherHalf_first]

/-- The sectors of an accepted region fit into the fields of an entry. -/
lemma MbrAccepted.switchedTo {updated : Nat → UInt8} (h : MbrAccepted dev start size part)
    (hwrap : start + size < 2 ^ 64) (hentry : getRawPartitionEntry dev dev.bytes part =
      .ok updated) :
    SwitchedTo part dev { dev with bytes := updated } := by
  obtain ⟨hstart, hsize, hentryStart, hentrySize, hkept⟩ := getRawPartitionEntry_ok hentry
  have hends := h.ends
  rw [Nat.mod_eq_of_lt hwrap] at hends
  have hroom : ∀ n, n ≤ start + size → n / dev.sectorSize < 2 ^ 32 := by
    intro n hn
    apply Nat.div_lt_of_lt_mul
    calc n < dev.sectors % 2 ^ 32 * dev.sectorSize := by omega
      _ ≤ dev.sectorSize * 2 ^ 32 := by
        rw [Nat.mul_comm]
        exact Nat.mul_le_mul_left _ (by omega)
  have hbounds : part.start ≤ start + size ∧ part.size ≤ start + size := by
    rcases h.isHalf hwrap with rfl | rfl
    · dsimp only
      omega
    · dsimp only
      omega
  rw [Nat.mod_eq_of_lt (hroom _ hbounds.1)] at hentryStart
  rw [Nat.mod_eq_of_lt (hroom _ hbounds.2)] at hentrySize
  refine ⟨?_, ?_, hkept, rfl, rfl⟩
  · dsimp only
    rw [hentryStart, Nat.div_mul_cancel (Nat.dvd_of_mod_eq_zero hstart)]
  · dsimp only
    rw [hentrySize, Nat.div_mul_cancel (Nat.dvd_of_mod_eq_zero hsize)]

/-- The other entries of the table are not touched. -/
lemma SwitchedTo.otherEntry {dev' : MbrDevice} (hs : SwitchedTo part dev dev') {i : Nat}
    (hi : i ≠ bootPartitionEntry) :
    partitionStart dev'.bytes i = partitionStart dev.bytes i ∧
      partitionSize dev'.bytes i = partitionSize dev.bytes i := by
  have hoffset : entryOffset bootPartitionEntry + 16 ≤ entryOffset i := by
    unfold entryOffset bootPartitionEntry at *
    omega
  have hsame : ∀ b, entryOffset i ≤ b → dev'.bytes b = dev.bytes b := by
    intro b hb
    apply hs.kept
    rintro ⟨-, hlt, -⟩
    omega
  constructor
  · exact congrArg ofLittleEndian (bytesAt_congr (fun k _ => hsame _ (by omega)))
  · exact congrArg ofLittleEndian (bytesAt_congr (fun k _ => hsame _ (by omega)))

/-- After a switch the region is accepted again, with the other half as the inactive one. -/
lemma SwitchedTo.accepted {dev' : MbrDevice} (hs : SwitchedTo part dev dev')
    (h : MbrAccepted dev start size part)
    (hwrap : start + size < 2 ^ 64) : MbrAccepted dev' start size (otherHalf start size part) := by
  have hsector := dev.sector
  obtain ⟨hhalf, hdvd, hdvdHalf⟩ := h.sectors
  have hbehind := h.behindMbr
  have hmbr : mbrSize = 512 := rfl
  have hentry : partitionStart dev'.bytes bootPartitionEntry = part.start / dev.sectorSize := by
    rw [← hs.entryStart, hs.sectorSize, Nat.mul_div_cancel _ (by omega)]
  have hmagic : ∀ b, 462 ≤ b → dev'.bytes b = dev.bytes b := by
    intro b hb
    apply hs.kept
    rintro ⟨-, hlt, -⟩
    have : entryOffset bootPartitionEntry = 446 := rfl
    omega
  refine ⟨hbehind, h.nonempty, ?_, ?_, ?_, ?_, ?_, ?_, ?_⟩
  · rw [hs.sectorSize]
    exact h.startAligned
  · rw [hs.sectorSize]
    exact h.sizeAligned
  · rw [hs.sectorSize, hs.sectors]
    exact h.ends
  · rw [hmagic 510 (by decide), hmagic 511 (by decide)]
    exact h.magic
  · rw [isRegionFree_ok_iff, hs.sectorSize]
    intro i hi hboot
    rw [(hs.otherEntry hboot).1, (hs.otherEntry hboot).2]
    exact (isRegionFree_ok_iff start size dev.bytes dev.sectorSize _).mp h.free i hi hboot
  · intro hzero
    have := hs.entryStart
    rw [hzero, Nat.zero_mul] at this
    rcases h.isHalf hwrap with rfl | rfl
    · dsimp only at this
      omega
    · dsimp only at this
      omega
  · rw [hentry, hs.sectorSize]
    unfold inactiveHalf
    rcases h.isHalf hwrap with rfl | rfl
    · rw [otherHalf_first, if_pos rfl, Nat.mod_eq_of_lt (by omega)]
    · have hne : start / dev.sectorSize ≠ (start + size / 2) / dev.sectorSize := by
        have := Nat.div_pos (Nat.le_of_dvd hhalf hdvdHalf) (by omega)
        rw [Nat.add_div_of_dvd_right hdvd]
        omega
      rw [otherHalf_second hhalf, if_neg hne, Nat.mod_eq_of_lt (by omega), if_pos rfl]

/-- The next answer: it is given when no step fails, and no other one is ever given. -/
def NextInactive (start size : Nat) (dev : MbrDevice) (part : BootSwitchPartition) : Prop :=
  observe (rMbrSwitchGetInactivePartition start size) dev = .value part ∧
    ∀ w : World MbrDevice, w.state = dev → ∀ other,
      (rMbrSwitchGetInactivePartition start size w).1 = .value other → other = part

lemma MbrAccepted.nextInactive (h : MbrAccepted dev start size part) :
    NextInactive start size dev part := by
  refine ⟨h.observed, ?_⟩
  rintro w rfl other hrun
  have hother := ((rMbrSwitchGetInactivePartition_peeks w.state start size).value rfl hrun).2.half
  exact Except.ok.inj (hother.symm.trans h.half)

/-- One switch of an accepted region. -/
lemma MbrAccepted.switch (h : MbrAccepted dev start size part) (hwrap : start + size < 2 ^ 64)
    {w : World MbrDevice}
    (hw : w.state = dev) (hrun : (rMbrSwitchSetBootPartition part w).1 = .value ()) :
    SwitchedTo part dev (rMbrSwitchSetBootPartition part w).2.state ∧
      MbrAccepted (rMbrSwitchSetBootPartition part w).2.state start size
        (otherHalf start size part) := by
  obtain ⟨updated, hentry, hstate⟩ := (rMbrSwitchSetBootPartition_triple dev part).value hw hrun
  rw [hstate]
  have hswitched := h.switchedTo hwrap hentry
  exact ⟨hswitched, hswitched.accepted h hwrap⟩

/-- The boot entry is switched to the inactive half and back again, and a call that fails changes
nothing. -/
theorem mbrSwitch_alternates (start size : Nat) (hwrap : start + size < 2 ^ 64) :
    (∀ (w : World MbrDevice) (part : BootSwitchPartition),
      (rMbrSwitchGetInactivePartition start size w).1 = .value part →
      ∀ v : World MbrDevice, v.state = w.state → (rMbrSwitchSetBootPartition part v).1 = .value () →
        SwitchedTo part w.state (rMbrSwitchSetBootPartition part v).2.state ∧
        NextInactive start size (rMbrSwitchSetBootPartition part v).2.state
          (otherHalf start size part) ∧
        ∀ u : World MbrDevice, u.state = (rMbrSwitchSetBootPartition part v).2.state →
          (rMbrSwitchSetBootPartition (otherHalf start size part) u).1 = .value () →
          SwitchedTo (otherHalf start size part) u.state
              (rMbrSwitchSetBootPartition (otherHalf start size part) u).2.state ∧
            NextInactive start size (rMbrSwitchSetBootPartition (otherHalf start size part)
              u).2.state part) ∧
    (∀ w : World MbrDevice, (rMbrSwitchGetInactivePartition start size w).2.state = w.state) ∧
    (∀ (w : World MbrDevice) (part : BootSwitchPartition) (x : Exit GError),
      (rMbrSwitchSetBootPartition part w).1 = .exit x →
        (rMbrSwitchSetBootPartition part w).2.state = w.state) := by
  refine ⟨?_, ?_, ?_⟩
  · intro w part hget v hv hset
    have haccepted := ((rMbrSwitchGetInactivePartition_peeks w.state start size).value rfl hget).2
    obtain ⟨hswitched, hnext⟩ := haccepted.switch hwrap hv hset
    refine ⟨hswitched, hnext.nextInactive, ?_⟩
    intro u hu hback
    rw [← hu] at hnext
    obtain ⟨hreturned, hagain⟩ := hnext.switch hwrap rfl hback
    rw [otherHalf_otherHalf haccepted hwrap] at hagain
    exact ⟨hreturned, hagain.nextInactive⟩
  · intro w
    cases hrun : (rMbrSwitchGetInactivePartition start size w).1 with
    | value part =>
      exact ((rMbrSwitchGetInactivePartition_peeks w.state start size).value rfl hrun).1
    | exit x => exact (rMbrSwitchGetInactivePartition_peeks w.state start size).exit rfl hrun
  · intro w part x hrun
    exact (rMbrSwitchSetBootPartition_triple w.state part).exit rfl hrun

theorem mbrSwitch_alternates_on_disk :
    SwitchedTo ⟨2 ^ 20 + 2 ^ 22, 2 ^ 22⟩ (smallSectorDisk 8192)
        (rMbrSwitchSetBootPartition ⟨2 ^ 20 + 2 ^ 22, 2 ^ 22⟩
          (calm (smallSectorDisk 8192))).2.state ∧
      NextInactive (2 ^ 20) (2 ^ 23)
        (rMbrSwitchSetBootPartition ⟨2 ^ 20 + 2 ^ 22, 2 ^ 22⟩ (calm (smallSectorDisk 8192))).2.state
        ⟨2 ^ 20, 2 ^ 22⟩ := by
  obtain ⟨hswitched, hnext, -⟩ := (mbrSwitch_alternates (2 ^ 20) (2 ^ 23) (by decide)).1
    (calm (smallSectorDisk 8192))
    ⟨2 ^ 20 + 2 ^ 22, 2 ^ 22⟩ rfl (calm (smallSectorDisk 8192)) rfl rfl
  exact ⟨hswitched, hnext⟩

end Turns

end RaucUpdate
