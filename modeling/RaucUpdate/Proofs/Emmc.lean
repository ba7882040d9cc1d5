import RaucUpdate.Model.Emmc
import RaucUpdate.Proofs.HeaderLast

/-!
# Updates of eMMC boot partitions

The partition that the machine boots from is complete on the medium at any time, and bytes behind
the size limit are never touched. What an update that succeeds leaves behind.
-/

namespace RaucUpdate

open Library Prog

/-- The branches may rely on the condition. -/
lemma steps_ite {α : Type} {S R : CachedDevice UInt8 → Prop} {Q : α → CachedDevice UInt8 → Prop}
    {c : Prop} [Decidable c]
    {p q : DiskProg α} (hp : c → Steps S R p Q) (hq : ¬c → Steps S R q Q) :
      Steps S R (if c then p else q) Q := by
  split_ifs with hc
  · exact hp hc
  · exact hq hc

section Tail

variable {old d : CachedDevice UInt8} {limit : Nat}

/-- The bytes from the limit on are those from before, for reads and after a crash. -/
def TailKept (old : CachedDevice UInt8) (limit : Nat) (d : CachedDevice UInt8) : Prop :=
  ∀ b, limit ≤ b → d.cache b = old.cache b ∧ (d.medium b = old.medium b ∨ d.medium b = old.cache b)

lemma tailKept_refl (old : CachedDevice UInt8) (limit : Nat) : TailKept old limit old :=
  fun _ _ => ⟨rfl, .inl rfl⟩

lemma lasting_tailKept (old : CachedDevice UInt8) (limit : Nat) : Lasting (TailKept old limit) := by
  intro d chosen h b hb
  obtain ⟨hcache, hmedium⟩ := h b hb
  refine ⟨hcache, ?_⟩
  rw [CachedDevice.flush_medium]
  split_ifs
  · exact .inr hcache
  · exact hmedium

lemma TailKept.write (h : TailKept old limit d) {pos : Nat} {bytes : List UInt8}
    (hend : pos + bytes.length ≤ limit) :
    TailKept old limit (d.write pos bytes) := by
  intro b hb
  rw [CachedDevice.write_cache, CachedDevice.write_medium, writeAt_outside (by omega)]
  exact h b hb

lemma TailKept.sync (h : TailKept old limit d) : TailKept old limit d.sync :=
  fun b hb => ⟨(h b hb).1, .inr (h b hb).1⟩

variable {dev : BlockDevice} {content : List UInt8}

lemma tail_step {effect : CachedDevice UInt8 → CachedDevice UInt8} {report : Failure → GError}
    (heffect : ∀ d, TailKept old limit d → TailKept old limit (effect d)) :
    Steps (TailKept old limit) (TailKept old limit) (diskStep effect report)
      (fun _ => TailKept old limit) :=
  steps_diskStep (lasting_tailKept old limit) (fun _ hd => hd) heffect

lemma tail_idle {report : Failure → GError} :
    Steps (TailKept old limit) (TailKept old limit) (diskStep id report)
      (fun _ => TailKept old limit) :=
  tail_step (fun _ hd => hd)

lemma tail_writePieces (parts : List (List UInt8)) (pos : Nat)
    (hend : pos + parts.flatten.length ≤ limit) :
    Steps (TailKept old limit) (TailKept old limit) (writePieces dev parts pos)
      (fun _ => TailKept old limit) := by
  induction parts generalizing pos with
  | nil => exact steps_pure (fun _ hd => hd)
  | cons piece rest ih =>
    rw [List.flatten_cons, List.length_append] at hend
    unfold writePieces
    split_ifs
    · exact steps_exit (fun _ hd => hd)
    · apply steps_bind (tail_step (fun d hd => hd.write (by omega)))
      intro _
      exact ih (pos + piece.length) (by omega)

lemma tail_readHeader (lenHeaderLast : Nat) :
    Steps (TailKept old limit) (TailKept old limit) (readHeader dev content lenHeaderLast)
      (fun header d => header.length ≤ content.length ∧ TailKept old limit d) := by
  unfold readHeader
  split_ifs
  · exact steps_pure (fun _ hd => ⟨by simp, hd⟩)
  · exact steps_exit (fun _ hd => hd)
  · apply steps_bind tail_idle
    intro _
    apply steps_bind tail_idle
    intro _
    exact steps_pure (fun _ hd => ⟨by rw [List.length_take]; omega, hd⟩)

/-- A copy writes no further than the file is long, even when the size is not the declared one. -/
lemma tail_copyRawImage (image : RaucImage) {start : Nat} (lenHeaderLast : Nat)
    (hfits : start + content.length ≤ limit) :
    Steps (TailKept old limit) (TailKept old limit)
      (copyRawImage dev image content start lenHeaderLast)
      (fun _ => TailKept old limit) := by
  unfold copyRawImage
  apply steps_ite (fun _ => steps_exit (fun _ hd => hd))
  intro _
  apply steps_bind tail_idle
  intro _
  apply steps_bind (tail_readHeader lenHeaderLast)
  intro header
  apply steps_fact
  intro hheader
  have hstream : Steps (TailKept old limit) (TailKept old limit)
      (rCopyStreamWithProgress dev (content.drop header.length) image.checksum.size.toInt
        (start + header.length))
      (fun _ => TailKept old limit) := by
    unfold rCopyStreamWithProgress
    split_ifs
    · exact steps_pure (fun _ hd => hd)
    · apply tail_writePieces
      rw [flatten_pieces (by omega) _ _ (le_refl _), List.length_drop]
      omega
  have hwrite : Steps (TailKept old limit) (TailKept old limit) (writeHeader header start)
      (fun _ => TailKept old limit) := by
    unfold writeHeader
    split_ifs
    · exact steps_pure (fun _ hd => hd)
    · apply steps_bind (tail_step (fun _ hd => hd.sync))
      intro _
      apply steps_bind tail_idle
      intro _
      exact tail_step (fun d hd => hd.write (by omega))
  apply steps_bind (steps_mapError hstream)
  intro _
  apply steps_ite (fun _ => steps_exit (fun _ hd => hd))
  intro _
  apply steps_bind hwrite
  intro _
  apply steps_bind tail_idle
  intro _
  exact tail_step (fun _ hd => hd.sync)

end Tail

section Partition

variable {old : CachedDevice UInt8} {dev : BlockDevice} {image : RaucImage} {content : List UInt8}
  {slot : RaucSlot}

/-- The file has the size that the manifest declares. -/
def DeclaredSize (image : RaucImage) (content : List UInt8) : Prop :=
  image.checksum.size.toInt = content.length

/-- Bytes behind the size limit are not touched, if the file has the declared size. -/
def Protected (image : RaucImage) (content : List UInt8) (limit : Nat)
    (old d : CachedDevice UInt8) : Prop :=
  DeclaredSize image content → 0 < limit → TailKept old limit d

lemma lasting_protected (image : RaucImage) (content : List UInt8) (limit : Nat)
    (old : CachedDevice UInt8) :
    Lasting (Protected image content limit old) :=
  fun d chosen h hsize hlimit => lasting_tailKept old limit d chosen (h hsize hlimit)

/-- How much of the partition is cleared. -/
def clearedSize (dev : BlockDevice) (limit : Nat) : Nat :=
  if 0 < limit then min limit dev.size else dev.size

def Zeroed (old : CachedDevice UInt8) (total : Nat) (d : CachedDevice UInt8) : Prop :=
  d.cache = writeAt old.cache 0 (List.replicate total 0)

/-- The loop goes on where the last write ended. Below the limit each write is capped by it. -/
lemma steps_clearSlotLoop (counts : Nat → Nat) (left total : Nat) (hspace : total + left = dev.size)
    (hbelow : 0 < slot.sizeLimit → total < slot.sizeLimit) :
    Steps (Protected image content slot.sizeLimit old)
      (fun d => Protected image content slot.sizeLimit old d ∧ Zeroed old total d)
      (clearSlotLoop slot counts left total)
      (fun _ d => Protected image content slot.sizeLimit old d ∧
        Zeroed old (clearedSize dev slot.sizeLimit) d) := by
  induction left using Nat.strong_induction_on generalizing total with
  | h left ih =>
    rw [clearSlotLoop]
    split_ifs with hfull
    · apply steps_pure
      rintro d ⟨hprotected, hzeroed⟩
      have htotal : clearedSize dev slot.sizeLimit = total := by
        unfold clearedSize
        split_ifs with hlimit
        · have := hbelow hlimit
          omega
        · omega
      exact ⟨hprotected, by rwa [htotal]⟩
    · dsimp only
      generalize hcount : min (counts total + 1) (min (clearWriteSize slot total) left) = count
      have hcapped : 0 < count ∧ count ≤ left ∧
          (0 < slot.sizeLimit → total + count ≤ slot.sizeLimit) := by
        unfold clearWriteSize clearBlockSize at hcount
        split_ifs at hcount with hcap
        · omega
        · refine ⟨by omega, by omega, fun hlimit => by omega⟩
      have hwrite : Steps (Protected image content slot.sizeLimit old)
          (fun d => Protected image content slot.sizeLimit old d ∧ Zeroed old total d)
          (diskStep (fun d => d.write total (List.replicate count 0))
            (updateFailed "failed clearing block device: "))
          (fun _ d => Protected image content slot.sizeLimit old d ∧
            Zeroed old (total + count) d) := by
        apply steps_diskStep
        · rintro d chosen ⟨hprotected, hzeroed⟩
          exact ⟨lasting_protected image content slot.sizeLimit old d chosen hprotected, hzeroed⟩
        · exact fun d hd => hd.1
        · rintro d ⟨hprotected, hzeroed⟩
          refine ⟨fun hsize hlimit => (hprotected hsize hlimit).write ?_, ?_⟩
          · rw [List.length_replicate]
            exact hcapped.2.2 hlimit
          · have happend := writeAt_append old.cache 0 (List.replicate total 0)
              (List.replicate count 0)
            rw [List.length_replicate, Nat.zero_add, List.replicate_append_replicate] at happend
            unfold Zeroed at hzeroed ⊢
            rw [CachedDevice.write_cache, hzeroed, happend]
      apply steps_bind hwrite
      intro _
      split_ifs with hend
      · apply steps_pure
        rintro d ⟨hprotected, hzeroed⟩
        have htotal : clearedSize dev slot.sizeLimit = total + count := by
          unfold clearedSize
          rw [if_pos hend.1]
          have := hcapped.2.2 hend.1
          omega
        exact ⟨hprotected, by rwa [htotal]⟩
      · exact ih (left - count) (by omega) (total + count) (by omega) (by omega)

lemma protected_idle {R : CachedDevice UInt8 → Prop} {report : Failure → GError} (hR : Lasting R)
    (hprotected : ∀ d, R d → Protected image content slot.sizeLimit old d) :
    Steps (Protected image content slot.sizeLimit old) R (diskStep id report) (fun _ => R) :=
  steps_idle hR hprotected

lemma steps_clearSlot (counts : Nat → Nat) :
    Steps (Protected image content slot.sizeLimit old) (· = old) (clearSlot dev slot counts)
      (fun _ d => Protected image content slot.sizeLimit old d ∧
        Zeroed old (clearedSize dev slot.sizeLimit) d) := by
  have hlasting : ∀ total, Lasting (fun d => Protected image content slot.sizeLimit old d ∧
      Zeroed old total d) :=
    fun _ d chosen hd => ⟨lasting_protected image content slot.sizeLimit old d chosen hd.1, hd.2⟩
  have hrun : Steps (Protected image content slot.sizeLimit old)
      (fun d => Protected image content slot.sizeLimit old d ∧ Zeroed old 0 d)
      (clearSlot dev slot counts)
      (fun _ d => Protected image content slot.sizeLimit old d ∧
        Zeroed old (clearedSize dev slot.sizeLimit) d) := by
    unfold clearSlot openDevice
    apply steps_bind (protected_idle (hlasting 0) (fun d hd => hd.1))
    intro _
    apply steps_bind (steps_clearSlotLoop counts dev.size 0 (Nat.zero_add dev.size) (fun h => h))
    intro _
    exact protected_idle (hlasting _) (fun d hd => hd.1)
  intro w hw
  refine hrun w ⟨fun _ _ => ?_, ?_⟩
  · rw [hw]
    exact tailKept_refl old slot.sizeLimit
  · unfold Zeroed
    rw [hw, List.replicate_zero, writeAt_nil]

/-- Everything that a copy has written is on the medium when it succeeds. -/
lemma copyRawImage_synced (start lenHeaderLast : Nat) :
    Steps (fun _ => True) (fun _ => True) (copyRawImage dev image content start lenHeaderLast)
      (fun _ d => d.medium = d.cache) := by
  have hany : ∀ {α : Type} (p : DiskProg α), Steps (fun _ => True) (fun _ => True) p
      (fun _ _ => True) :=
    fun _ => triple_any
  unfold copyRawImage
  apply steps_ite (fun _ => steps_exit (fun _ hd => hd))
  intro _
  apply steps_bind (hany _)
  intro _
  apply steps_bind (hany _)
  intro header
  apply steps_bind (hany _)
  intro _
  apply steps_ite (fun _ => steps_exit (fun _ hd => hd))
  intro _
  apply steps_bind (hany _)
  intro _
  apply steps_bind (hany _)
  intro _
  exact steps_diskStep (fun _ _ hd => hd) (fun _ hd => hd) (fun _ _ => rfl)

/-- The image stands at the beginning of the cleared partition, and all of it is on the medium. -/
structure Imaged (image : RaucImage) (content : List UInt8) (cleared : Nat)
    (old d : CachedDevice UInt8) : Prop where
  declared : image.declared ≤ content.length
  cache : d.cache = writeAt (writeAt old.cache 0 (List.replicate cleared 0)) 0
    (content.take image.declared)
  medium : d.medium = d.cache

lemma lasting_imaged (image : RaucImage) (content : List UInt8) (cleared : Nat)
    (old : CachedDevice UInt8) :
    Lasting (Imaged image content cleared old) := by
  rintro d chosen ⟨hdeclared, hcache, hmedium⟩
  refine ⟨hdeclared, hcache, ?_⟩
  funext b
  rw [CachedDevice.flush_medium_of_agree (by rw [hmedium]), hmedium]
  rfl

/-- The check of the size leaves images that fit below the limit. -/
lemma steps_checkImageSizeOnDevice {S R : CachedDevice UInt8 → Prop} (hR : Lasting R)
    (hS : ∀ d, R d → S d) :
    Steps S R (checkImageSizeOnDevice dev image slot)
      (fun _ d => (0 < slot.sizeLimit → (image.checksum.size.toInt % 2 ^ 64).toNat ≤
        slot.sizeLimit) ∧ R d) := by
  unfold checkImageSizeOnDevice
  apply steps_ite (fun _ => steps_exit hS)
  intro hlimit
  have hfits : 0 < slot.sizeLimit → (image.checksum.size.toInt % 2 ^ 64).toNat ≤
      slot.sizeLimit := by
    intro hpos
    by_contra hlarge
    exact hlimit ⟨hpos, Nat.lt_of_not_le hlarge⟩
  have hquery : Steps S R (Prog.attempt (diskStep id (updateFailed "Failed to get device size: ")))
      (fun _ => R) := by
    apply triple_attempt
    have hstep : Prog.Triple (fun st : DiskState => R st.device)
        (diskStep id (updateFailed "Failed to get device size: ")) (fun _ st => R st.device)
          (fun _ st => R st.device) :=
      steps_idle hR (fun _ hd => hd)
    apply triple_consequence hstep (fun _ h => h) (fun _ _ h => h)
    intro x st hst
    cases x with
    | error e => exact hst
    | aborted reason => exact hS _ hst
    | stopped => exact hS _ hst
  apply steps_bind hquery
  intro result
  cases result with
  | error e =>
    exact steps_ite (fun _ => steps_exit hS) (fun _ => steps_pure (fun _ hd => ⟨hfits, hd⟩))
  | ok u => exact steps_ite (fun _ => steps_exit hS) (fun _ => steps_pure (fun _ hd => ⟨hfits, hd⟩))

/-- The copy after the clearing. -/
lemma steps_copyRawImageToBootpart :
    Steps (Protected image content slot.sizeLimit old)
      (fun d => Protected image content slot.sizeLimit old d ∧
        Zeroed old (clearedSize dev slot.sizeLimit) d)
      (copyRawImageToBootpart dev image content slot)
      (fun _ d => Protected image content slot.sizeLimit old d ∧
        Imaged image content (clearedSize dev slot.sizeLimit) old d) := by
  have hlasting : Lasting (fun d => Protected image content slot.sizeLimit old d ∧
      Zeroed old (clearedSize dev slot.sizeLimit) d) :=
    fun d chosen hd => ⟨lasting_protected image content slot.sizeLimit old d chosen hd.1, hd.2⟩
  unfold copyRawImageToBootpart openDevice
  apply steps_bind (protected_idle hlasting (fun _ hd => hd.1))
  intro _
  apply steps_bind (steps_checkImageSizeOnDevice hlasting (fun _ hd => hd.1))
  intro _
  apply steps_fact
  intro hfits
  have hcopy : Steps (Protected image content slot.sizeLimit old)
      (fun d => Protected image content slot.sizeLimit old d ∧
        Zeroed old (clearedSize dev slot.sizeLimit) d)
      (copyRawImage dev image content 0 0)
      (fun _ d => Protected image content slot.sizeLimit old d ∧
        Imaged image content (clearedSize dev slot.sizeLimit) old d) := by
    have hprotected : Steps (Protected image content slot.sizeLimit old)
        (Protected image content slot.sizeLimit old)
        (copyRawImage dev image content 0 0) (fun _ =>
          Protected image content slot.sizeLimit old) := by
      by_cases hsize : DeclaredSize image content
      · by_cases hlimit : 0 < slot.sizeLimit
        · -- a size with 64 bits is not changed by the cast
          have hend : 0 + content.length ≤ slot.sizeLimit := by
            have hsmall := image.checksum.size.toInt_lt
            have := hfits hlimit
            unfold DeclaredSize at hsize
            omega
          have htail := @tail_copyRawImage old slot.sizeLimit dev content image 0 0 hend
          exact triple_consequence htail (fun _ hd => hd hsize hlimit) (fun _ _ hd _ _ => hd)
            (fun _ _ hd _ _ => hd)
        · exact triple_consequence triple_any (fun _ _ => trivial) (fun _ _ _ _ h =>
            absurd h hlimit)
            (fun _ _ _ _ h => absurd h hlimit)
      · exact triple_consequence triple_any (fun _ _ => trivial) (fun _ _ _ h => absurd h hsize)
          (fun _ _ _ h => absurd h hsize)
    intro w hw
    have hcopied := steps_copyRawImage w.state.device dev image content 0 0
    have hsynced := @copyRawImage_synced dev image content 0 0
    have hboth := triple_both hprotected (triple_both hcopied hsynced) w ⟨hw.1, rfl, trivial⟩
    unfold Prog.Holds at hboth ⊢
    split at hboth
    · obtain ⟨hkept, ⟨⟨hdeclared, hcache⟩, -⟩, hmedium⟩ := hboth
      have hzeroed : w.state.device.cache = _ := hw.2
      rw [hzeroed] at hcache
      exact ⟨hkept, hdeclared, hcache, hmedium⟩
    · exact hboth.1
  apply steps_bind hcopy
  intro _
  apply protected_idle _ (fun _ hd => hd.1)
  exact fun d chosen hd => ⟨lasting_protected image content slot.sizeLimit old d chosen hd.1,
    lasting_imaged image content _ old d chosen hd.2⟩

end Partition

section Card

variable {α β : Type} {dev : BlockDevice} {image : RaucImage} {content : List UInt8}
  {slot : RaucSlot} {n : Nat}
  {st₀ : EmmcState} {S R : CachedDevice UInt8 → Prop} {Q : α → CachedDevice UInt8 → Prop}

/-- The register and the other partitions are the ones from before. -/
structure OthersKept (n : Nat) (st₀ st : EmmcState) : Prop where
  partConfig : st.partConfig = st₀.partConfig
  switches : st.switches = st₀.switches
  others : ∀ k, k ≠ n → st.partition k = st₀.partition k

/-- A program that works on one of the partitions, with a condition on it at each point where it may
end. -/
def CardSteps (n : Nat) (st₀ : EmmcState) (S R : CachedDevice UInt8 → Prop) (p : EmmcProg α)
    (Q : α → CachedDevice UInt8 → Prop) : Prop :=
  Triple (fun st => OthersKept n st₀ st ∧ R (st.partition n).device) p
    (fun a st => OthersKept n st₀ st ∧ Q a (st.partition n).device)
    (fun _ st => OthersKept n st₀ st ∧ S (st.partition n).device)

lemma card_bind {p : EmmcProg α} {f : α → EmmcProg β} {Q' : β → CachedDevice UInt8 → Prop}
    (hp : CardSteps n st₀ S R p Q) (hf : ∀ a, CardSteps n st₀ S (Q a) (f a) Q') :
      CardSteps n st₀ S R (p >>= f) Q' :=
  triple_bind hp hf

lemma card_idle {report : Failure → EmmcError} (hS : ∀ d, R d → S d) :
    CardSteps n st₀ S R (Prog.external id report) (fun _ => R) :=
  triple_external_id (fun _ _ h => ⟨h.1, hS _ h.2⟩)

lemma card_pure {a : α} (h : ∀ d, R d → Q a d) : CardSteps n st₀ S R (Prog.pure a : EmmcProg α) Q :=
  triple_pure (fun _ hst => ⟨hst.1, h _ hst.2⟩)

lemma card_exit {x : Exit EmmcError} (hS : ∀ d, R d → S d) :
    CardSteps n st₀ S R (Prog.exit x : EmmcProg α) Q :=
  triple_exit (fun _ hst => ⟨hst.1, hS _ hst.2⟩)

lemma card_onPartition {p : DiskProg α} (hp : Steps S R p Q) :
    CardSteps n st₀ S R (onPartition n p) Q := by
  apply triple_zoom
  rintro st ⟨hkept, hR⟩
  have hset : ∀ disk : DiskState, OthersKept n st₀ (st.setPartition n disk) ∧
      ((st.setPartition n disk).partition n).device = disk.device := by
    intro disk
    refine ⟨⟨hkept.partConfig, hkept.switches, fun k hk => ?_⟩, ?_⟩
    · simp only [EmmcState.setPartition, if_neg hk]
      exact hkept.others k hk
    · simp [EmmcState.setPartition]
  have hreport := triple_reportAs (f := EmmcError.other) hp
  apply triple_consequence hreport
  · rintro disk rfl
    exact hR
  · intro a disk hQ
    exact ⟨(hset disk).1, by rwa [(hset disk).2]⟩
  · intro _ disk hS
    exact ⟨(hset disk).1, by rwa [(hset disk).2]⟩

/-- Only the attribute changes, and only if the file can be closed. -/
lemma card_rEmmcForcePartWrite (device : String) (value : Bool) (text : String)
    (hS : ∀ d, R d → S d) :
    CardSteps n st₀ S R (rEmmcForcePartWrite device n value text) (fun _ => R) := by
  apply card_bind (card_idle hS)
  intro _
  apply card_bind (card_idle hS)
  intro _
  have hask : CardSteps n st₀ S R Prog.ask (fun _ => R) :=
    triple_ask (fun _ _ h => h) (fun _ h => ⟨h.1, hS _ h.2⟩)
  apply card_bind hask
  intro closed
  cases closed with
  | none => exact triple_modify (fun _ h => ⟨⟨h.1.partConfig, h.1.switches, h.1.others⟩, h.2⟩)
  | some failure => exact card_pure (fun _ hd => hd)

/-- A hook that is enabled ends the program. -/
lemma card_emmcHook {hookName : Option String} {enabled : Bool} (hS : ∀ d, R d → S d) :
    CardSteps n st₀ S R (emmcHook hookName enabled) (fun _ d => ¬(hookName.isSome ∧ enabled) ∧
      R d) := by
  unfold emmcHook
  split_ifs with h
  · exact card_exit hS
  · exact card_pure (fun _ hd => ⟨h, hd⟩)

lemma card_fact {C : Prop} {p : EmmcProg α} (hp : C → CardSteps n st₀ S R p Q) :
    CardSteps n st₀ S (fun d => C ∧ R d) p Q :=
  fun w hw => hp hw.2.1 w ⟨hw.1, hw.2.2⟩

lemma card_whenWritable {p : EmmcProg Unit} {Q : Unit → CachedDevice UInt8 → Prop}
    (hS : ∀ d, R d → S d)
    (hp : CardSteps n st₀ S R p Q) : CardSteps n st₀ S R (whenWritable dev n p) Q := by
  apply triple_read_bind
  intro st hst
  split_ifs
  · apply triple_exit
    rintro _ rfl
    exact ⟨hst.1, hS _ hst.2⟩
  · intro w hw
    exact hp w (by rwa [hw])

variable {old : CachedDevice UInt8} {hookName : Option String}

/-- No hook is to be run. -/
def HooksOff (image : RaucImage) (hookName : Option String) : Prop :=
  hookName = none ∨ (image.hooks.preInstall = false ∧ image.hooks.postInstall = false)

lemma card_fillEmmcBootpart (counts : Nat → Nat) :
    CardSteps n st₀ (Protected image content slot.sizeLimit old) (· = old)
      (fillEmmcBootpart dev image content slot hookName counts n)
      (fun _ d => HooksOff image hookName ∧ Protected image content slot.sizeLimit old d ∧
        Imaged image content (clearedSize dev slot.sizeLimit) old d) := by
  have hstart : ∀ d, d = old → Protected image content slot.sizeLimit old d := by
    rintro d rfl _ _
    exact tailKept_refl d slot.sizeLimit
  unfold fillEmmcBootpart
  apply card_bind (card_rEmmcForcePartWrite slot.device false _ hstart)
  intro _
  apply card_bind (card_emmcHook hstart)
  intro _
  apply card_fact
  intro hpre
  apply card_bind (card_whenWritable hstart (card_onPartition (steps_clearSlot counts)))
  intro _
  apply card_bind (card_onPartition steps_copyRawImageToBootpart)
  intro _
  apply card_bind (card_emmcHook (fun _ hd => hd.1))
  intro _
  apply card_fact
  intro hpost
  have hoff : HooksOff image hookName := by
    unfold HooksOff
    cases hookName with
    | none => exact .inl rfl
    | some name => simpa using And.intro hpre hpost
  have hreadonly : CardSteps n st₀ (Protected image content slot.sizeLimit old)
      (fun d => Protected image content slot.sizeLimit old d ∧
        Imaged image content (clearedSize dev slot.sizeLimit) old d)
      (rEmmcForcePartRo slot.device n)
      (fun _ d => Protected image content slot.sizeLimit old d ∧
        Imaged image content (clearedSize dev slot.sizeLimit) old d) :=
    card_rEmmcForcePartWrite slot.device true _ (fun _ hd => hd.1)
  exact triple_consequence hreadonly (fun _ h => h) (fun _ _ h => ⟨h.1, hoff, h.2⟩) (fun _ _ h => h)

/-- The partition is filled, or at least its end is left alone. -/
lemma card_copyImgToEmmcBootpart (counts : Nat → Nat) :
    CardSteps n st₀ (Protected image content slot.sizeLimit old) (· = old)
      (copyImgToEmmcBootpart dev image content slot hookName counts n)
      (fun _ d => HooksOff image hookName ∧ Protected image content slot.sizeLimit old d ∧
        Imaged image content (clearedSize dev slot.sizeLimit) old d) := by
  apply triple_bind (triple_attempt_cases (card_fillEmmcBootpart counts))
  intro result
  cases result with
  | ok u => exact triple_pure (fun _ h => h)
  | error e =>
    have hreadonly : CardSteps n st₀ (Protected image content slot.sizeLimit old)
        (Protected image content slot.sizeLimit old)
        (rEmmcForcePartRo slot.device n) (fun _ => Protected image content slot.sizeLimit old) :=
      card_rEmmcForcePartWrite slot.device true _ (fun _ hd => hd)
    apply triple_bind (Q := fun _ st => OthersKept n st₀ st ∧
      Protected image content slot.sizeLimit old (st.partition n).device)
    · apply triple_consequence (triple_attempt_cases hreadonly) (fun _ h => h) _ (fun _ _ h => h)
      intro r _ h
      cases r with
      | ok _ => exact h
      | error _ => exact h
    · intro _
      exact triple_exit (fun _ h => h)

end Card

section Register

variable {st₀ : EmmcState} {P : EmmcState → Prop}

/-- What is read of the active partition. -/
def ReadsActive (partConfig : UInt8) (r : Int) : Prop :=
  (bootPartitionEnable partConfig = 0 ∧ r = -1) ∨ (bootPartitionEnable partConfig = 1 ∧ r = 0) ∨
    (bootPartitionEnable partConfig = 2 ∧ r = 1)

lemma triple_rEmmcReadExtcsd (device : String) :
    Triple (· = st₀) (rEmmcReadExtcsd device) (fun v st => v = st₀.partConfig ∧
      st = st₀) (fun _ st => st = st₀) := by
  apply triple_bind (triple_external_id (fun _ _ h => h))
  intro _
  apply triple_read_bind
  rintro st rfl
  exact triple_pure (fun _ h => ⟨rfl, h⟩)

lemma triple_rEmmcReadBootpart (device : String) :
    Triple (· = st₀) (rEmmcReadBootpart device) (fun r st => st = st₀ ∧
      ReadsActive st₀.partConfig r)
      (fun _ st => st = st₀) := by
  apply triple_bind (triple_external_id (fun _ _ h => h))
  intro _
  apply triple_bind (triple_rEmmcReadExtcsd device)
  intro v
  apply triple_start
  rintro st ⟨rfl, rfl⟩
  unfold ReadsActive
  split
  case h_1 h => exact triple_pure (fun _ hst => ⟨hst, .inl ⟨h, rfl⟩⟩)
  case h_2 h => exact triple_pure (fun _ hst => ⟨hst, .inr (.inl ⟨h, rfl⟩)⟩)
  case h_3 h => exact triple_pure (fun _ hst => ⟨hst, .inr (.inr ⟨h, rfl⟩)⟩)
  case h_4 => exact triple_exit (fun _ hst => hst)
  case h_5 => exact triple_exit (fun _ hst => hst)

/-- After an error the command was sent or not. -/
lemma triple_rEmmcWriteBootpart (device : String) {part : Int} (hpart : part = 0 ∨ part = 1) :
    Triple (· = st₀) (rEmmcWriteBootpart device part)
      (fun _ st => st = st₀.switch (bootPartValue st₀.partConfig part))
      (fun _ st => st = st₀ ∨ st = st₀.switch (bootPartValue st₀.partConfig part)) := by
  unfold rEmmcWriteBootpart
  rw [if_pos hpart]
  apply triple_bind (triple_external_id (fun _ _ h => .inl h))
  intro _
  apply triple_bind (triple_consequence (triple_rEmmcReadExtcsd device) (fun _ h => h)
    (fun _ _ h => h)
    (fun _ _ h => .inl h))
  intro v
  apply triple_start
  rintro st ⟨rfl, rfl⟩
  apply triple_bind (Q := fun _ s => s = st.switch (bootPartValue st.partConfig part))
  · apply triple_modify
    rintro _ rfl
    rfl
  · intro _
    exact triple_external_id (fun _ _ h => .inr h)

/-- The field of the register follows the partition, and the bit next to it is kept. -/
lemma bootPartValue_spec (v : UInt8) : bootPartitionEnable (bootPartValue v 0) = 1 ∧
    bootPartitionEnable (bootPartValue v 1) = 2 ∧ bootPartValue v 0 &&& 0x40 = v &&& 0x40 ∧
    bootPartValue v 1 &&& 0x40 = v &&& 0x40 := by
  have hall : ∀ n < 256, bootPartitionEnable (bootPartValue (UInt8.ofNat n) 0) = 1 ∧
      bootPartitionEnable (bootPartValue (UInt8.ofNat n) 1) = 2 ∧
      bootPartValue (UInt8.ofNat n) 0 &&& 0x40 = UInt8.ofNat n &&& 0x40 ∧
      bootPartValue (UInt8.ofNat n) 1 &&& 0x40 = UInt8.ofNat n &&& 0x40 := by decide +kernel
  have hv := hall v.toNat v.toNat_lt
  rwa [UInt8.ofNat_toNat] at hv

end Register

section SmallCard

/-- A card that boots from its first partition, with the bit `BOOT_ACK` set. -/
def bootCard : EmmcState where
  partition n := ⟨⟨fun _ => UInt8.ofNat (n + 7), fun _ => UInt8.ofNat (n + 7)⟩, fun _ _ _ => false⟩
  forceRo _ := true
  partConfig := 0x48
  switches _ := true

def bootCardSlot : RaucSlot where
  name := "bootloader.0"
  sclass := "bootloader"
  device := "/dev/mmcblk0"
  type := "boot-emmc"
  sizeLimit := 4

def bootCardImage : RaucImage := { checksum := { size := 2 } }

end SmallCard

section Attempt

variable {dev : BlockDevice} {image : RaucImage} {content : List UInt8} {slot : RaucSlot}
  {hookName : Option String}
  {st₀ : EmmcState}

/-- The partition that an update writes: the second one only when the first one is active. -/
def EmmcState.target (st : EmmcState) : Nat :=
  if bootPartitionEnable st.partConfig = 1 then 1 else 0

/-- What an attempt may leave behind, however it ends. The partition is only switched to when the
image is complete. -/
structure EmmcOutcome (dev : BlockDevice) (image : RaucImage) (content : List UInt8)
    (slot : RaucSlot)
    (st₀ st : EmmcState) : Prop where
  others : ∀ k, k ≠ st₀.target → st.partition k = st₀.partition k
  tail : Protected image content slot.sizeLimit (st₀.partition st₀.target).device
    (st.partition st₀.target).device
  register : st.partConfig = st₀.partConfig ∨
    (st.partConfig = bootPartValue st₀.partConfig st₀.target ∧
    Imaged image content (clearedSize dev slot.sizeLimit) (st₀.partition st₀.target).device
      (st.partition st₀.target).device)

/-- What an attempt with success leaves behind. On a device that was not enabled for booting it is
not noticed when the command has had no effect. -/
structure EmmcSuccess (dev : BlockDevice) (image : RaucImage) (content : List UInt8)
    (slot : RaucSlot)
    (hookName : Option String) (st₀ st : EmmcState) : Prop where
  hooks : HooksOff image hookName
  imaged : Imaged image content (clearedSize dev slot.sizeLimit) (st₀.partition st₀.target).device
    (st.partition st₀.target).device
  register : st.partConfig = bootPartValue st₀.partConfig st₀.target ∨
    (bootPartitionEnable st₀.partConfig = 0 ∧ st.partConfig = st₀.partConfig)

lemma emmcOutcome_refl (st : EmmcState) : EmmcOutcome dev image content slot st st :=
  ⟨fun _ _ => rfl, fun _ _ => tailKept_refl _ _, .inl rfl⟩

/-- The inactive partition is the target. -/
lemma target_of_reads {r : Int} (h : ReadsActive st₀.partConfig r) :
    inactiveBootPartition (if r = -1 then 1 else r) = (st₀.target : Int) ∧
      (st₀.target = 0 ∨ st₀.target = 1) := by
  unfold EmmcState.target
  rcases h with ⟨henable, rfl⟩ | ⟨henable, rfl⟩ | ⟨henable, rfl⟩
  · rw [henable]
    decide
  · rw [henable]
    decide
  · rw [henable]
    decide

lemma bootPartValue_target (st : EmmcState) :
    bootPartitionEnable (bootPartValue st.partConfig st.target) = st.target + 1 ∧
      bootPartValue st.partConfig st.target &&& 0x40 = st.partConfig &&& 0x40 := by
  obtain ⟨hzero, hone, hackZero, hackOne⟩ := bootPartValue_spec st.partConfig
  unfold EmmcState.target
  split_ifs
  · exact ⟨hone, hackOne⟩
  · exact ⟨hzero, hackZero⟩

/-- The device that was written, with the command sent or not. -/
lemma emmcOutcome_switch {st : EmmcState} (hkept : OthersKept st₀.target st₀ st)
    (htail : Protected image content slot.sizeLimit (st₀.partition st₀.target).device
      (st.partition st₀.target).device)
    (himaged : Imaged image content (clearedSize dev slot.sizeLimit)
      (st₀.partition st₀.target).device
      (st.partition st₀.target).device) :
    EmmcOutcome dev image content slot st₀ (st.switch
      (bootPartValue st.partConfig st₀.target)) := by
  refine ⟨hkept.others, htail, ?_⟩
  unfold EmmcState.switch
  dsimp only
  rw [hkept.partConfig]
  split_ifs
  · exact .inr ⟨rfl, himaged⟩
  · exact .inl rfl

/-- The last part of an attempt: a command without effect is noticed, since the same partition is
read again. -/
lemma triple_toggle {st : EmmcState} (device realdev : String) (e : EmmcError) {r partActive : Int}
    (hreads : ReadsActive st₀.partConfig r) (hactive : (if r = -1 then 1 else r) = partActive)
    (hinactive : inactiveBootPartition partActive = (st₀.target : Int))
    (hkept : OthersKept st₀.target st₀ st)
    (hoff : HooksOff image hookName)
    (htail : Protected image content slot.sizeLimit (st₀.partition st₀.target).device
      (st.partition st₀.target).device)
    (himaged : Imaged image content (clearedSize dev slot.sizeLimit)
      (st₀.partition st₀.target).device
      (st.partition st₀.target).device) :
    Triple (· = st) (do
        rEmmcWriteBootpart device (inactiveBootPartition partActive)
        let after ← rEmmcReadBootpart realdev
        if partActive = after then Prog.fail e else return ())
      (fun _ st' => EmmcOutcome dev image content slot st₀ st' ∧
        EmmcSuccess dev image content slot hookName st₀ st')
      (fun _ st' => EmmcOutcome dev image content slot st₀ st') := by
  have hpart : inactiveBootPartition partActive = 0 ∨ inactiveBootPartition partActive = 1 := by
    have htarget := (target_of_reads hreads).2
    omega
  have houtcome := emmcOutcome_switch hkept htail himaged
  have hwrite := @triple_rEmmcWriteBootpart st device _ hpart
  rw [hinactive] at hwrite ⊢
  apply triple_bind (triple_consequence hwrite (fun _ h => h) (fun _ _ h => h) _)
  · intro _
    apply triple_bind (triple_consequence (triple_rEmmcReadBootpart realdev) (fun _ h => h)
      (fun _ _ h => h) _)
    · intro after
      apply triple_start
      rintro st' ⟨rfl, hafter⟩
      split_ifs with hsame
      · apply triple_exit
        rintro _ rfl
        exact houtcome
      · apply triple_pure
        rintro _ rfl
        refine ⟨houtcome, hoff, himaged, ?_⟩
        rcases houtcome.register with hregister | ⟨hregister, -⟩
        · right
          refine ⟨?_, hregister⟩
          rw [hregister] at hafter
          have hagain : after = r := by
            rcases hreads with ⟨hr, rfl⟩ | ⟨hr, rfl⟩ | ⟨hr, rfl⟩ <;>
              rcases hafter with ⟨h, rfl⟩ | ⟨h, rfl⟩ | ⟨h, rfl⟩ <;> omega
          rcases hreads with ⟨henable, -⟩ | ⟨-, hr⟩ | ⟨-, hr⟩
          · exact henable
          · exact absurd (by rw [hagain, ← hactive, hr]; rfl) hsame
          · exact absurd (by rw [hagain, ← hactive, hr]; rfl) hsame
        · exact .inl hregister
    · rintro _ _ rfl
      exact houtcome
  · rintro _ _ (rfl | rfl)
    · exact ⟨hkept.others, htail, .inl hkept.partConfig⟩
    · exact houtcome

/-- One attempt from any state of the device. -/
lemma triple_imgToBootEmmcHandler (realdev : String) (counts : Nat → Nat) :
    Triple (· = st₀) (imgToBootEmmcHandler dev image content slot hookName realdev counts)
      (fun _ st => EmmcOutcome dev image content slot st₀ st ∧
        EmmcSuccess dev image content slot hookName st₀ st)
      (fun _ st => EmmcOutcome dev image content slot st₀ st) := by
  have hrefl : ∀ st, st = st₀ → EmmcOutcome dev image content slot st₀ st := by
    rintro st rfl
    exact emmcOutcome_refl st
  unfold imgToBootEmmcHandler
  apply triple_bind (triple_external_id (fun _ st h => hrefl st h))
  intro _
  apply triple_bind (triple_consequence (triple_rEmmcReadBootpart realdev) (fun _ h => h)
    (fun _ _ h => h)
    (fun _ st h => hrefl st h))
  intro r
  apply triple_fact
  intro hreads
  dsimp only
  generalize hactive : (if r = -1 then 1 else r) = partActive
  obtain ⟨hinactive, -⟩ := target_of_reads hreads
  rw [hactive] at hinactive
  have hnumber : (inactiveBootPartition partActive).toNat = st₀.target := by
    rw [hinactive, Int.toNat_natCast]
  have hlimit : (partSlot slot realdev partActive).sizeLimit = slot.sizeLimit := rfl
  rw [hnumber]
  generalize partSlot slot realdev partActive = part at hlimit ⊢
  have hcopy := @card_copyImgToEmmcBootpart dev image content part st₀.target st₀
    (st₀.partition st₀.target).device hookName
    counts
  rw [hlimit] at hcopy
  refine triple_bind (triple_consequence hcopy ?_ (fun _ _ h => h) ?_) ?_
  · rintro _ rfl
    exact ⟨⟨rfl, rfl, fun _ _ => rfl⟩, rfl⟩
  · exact fun _ _ h => ⟨h.1.others, h.2, .inl h.1.partConfig⟩
  · intro _
    apply triple_start
    rintro st ⟨hkept, hoff, htail, himaged⟩
    exact triple_toggle part.device realdev _ hreads hactive hinactive hkept hoff htail himaged

lemma emmcOutcome_handler (image : RaucImage) (content : List UInt8) (hookName : Option String)
    (realdev : String)
    (counts : Nat → Nat) (st : EmmcState) (fates : Nat → Fate) :
    EmmcOutcome dev image content slot st
      (imgToBootEmmcHandler dev image content slot hookName realdev counts ⟨st,
        fates⟩).2.state := by
  have hrun : Triple (· = st) (imgToBootEmmcHandler dev image content slot hookName realdev counts)
      (fun _ => EmmcOutcome dev image content slot st)
        (fun _ => EmmcOutcome dev image content slot st) :=
    triple_consequence (triple_imgToBootEmmcHandler realdev counts) (fun _ h => h) (fun _ _ h =>
      h.1) (fun _ _ h => h)
  exact hrun.state (w := ⟨st, fates⟩) rfl

lemma active_eq_some {st : EmmcState} {n : Nat} :
    st.active = some n ↔ bootPartitionEnable st.partConfig = n + 1 ∧ n < 2 := by
  unfold EmmcState.active
  split
  case h_1 h =>
    rw [h, Option.some.injEq]
    omega
  case h_2 h =>
    rw [h, Option.some.injEq]
    omega
  case h_3 hone htwo =>
    refine ⟨fun h => absurd h (by simp), ?_⟩
    rintro ⟨henable, hn⟩
    obtain rfl | rfl : n = 0 ∨ n = 1 := by omega
    · exact absurd henable hone
    · exact absurd henable htwo

lemma active_ne_target {n : Nat} (h : st₀.active = some n) : n ≠ st₀.target := by
  obtain ⟨henable, hn⟩ := active_eq_some.mp h
  unfold EmmcState.target
  split_ifs <;> omega

/-- What the success of an update means: no hook was to be run, the partition that was not active
holds the image behind which it is cleared, all of it is on the medium, and the machine boots from
it, unless the device was not enabled for booting and still is not. The other partition and the bit
`BOOT_ACK` are as they were. -/
theorem imgToBootEmmcHandler_success (realdev : String) (counts : Nat → Nat) (fates : Nat → Fate)
    (hsuccess : (imgToBootEmmcHandler dev image content slot hookName realdev counts ⟨st₀,
      fates⟩).1 = .value ()) :
    let st := (imgToBootEmmcHandler dev image content slot hookName realdev counts ⟨st₀,
      fates⟩).2.state
    HooksOff image hookName ∧ image.declared ≤ content.length ∧
      (st.partition st₀.target).device.medium =
        writeAt (writeAt (st₀.partition st₀.target).device.cache 0
          (List.replicate (clearedSize dev slot.sizeLimit) 0)) 0 (content.take image.declared) ∧
      (st.partition st₀.target).device.cache = (st.partition st₀.target).device.medium ∧
      (∀ k, k ≠ st₀.target → st.partition k = st₀.partition k) ∧ st.partConfig &&& 0x40 =
        st₀.partConfig &&& 0x40 ∧
      (st.active = some st₀.target ∨ (bootPartitionEnable st₀.partConfig = 0 ∧ st.partConfig =
        st₀.partConfig)) := by
  intro st
  obtain ⟨houtcome, hoff, himaged, hregister⟩ :=
    (triple_imgToBootEmmcHandler realdev counts).value rfl hsuccess
  obtain ⟨henable, hack⟩ := bootPartValue_target st₀
  refine ⟨hoff, himaged.declared, himaged.medium.trans himaged.cache, himaged.medium.symm,
    houtcome.others, ?_, ?_⟩
  · rcases hregister with hnew | ⟨-, hold⟩
    · rw [hnew, hack]
    · rw [hold]
  · refine hregister.imp_left (fun hnew => active_eq_some.mpr ⟨?_, ?_⟩)
    · rw [hnew, henable]
    · unfold EmmcState.target
      split_ifs <;> omega

/-- An update of a card with a small image. -/
theorem imgToBootEmmcHandler_success_card :
    let st := (imgToBootEmmcHandler ⟨6, 512⟩ bootCardImage [1, 2] bootCardSlot none "/dev/mmcblk0"
      (fun _ => 0)
      ⟨bootCard, fun _ => .succeeds⟩).2.state
    st.active = some 1 ∧ (st.partition 1).device.medium =
      writeAt (writeAt (fun _ => 8) 0 [0, 0, 0, 0]) 0 [1, 2] := by
  intro st
  have hsuccess :
      (imgToBootEmmcHandler ⟨6, 512⟩ bootCardImage [1, 2] bootCardSlot none "/dev/mmcblk0"
      (fun _ => 0)
      ⟨bootCard, fun _ => .succeeds⟩).1 = .value () := by decide +kernel
  obtain ⟨-, -, hmedium, -, -, -, hactive⟩ :=
    imgToBootEmmcHandler_success "/dev/mmcblk0" (fun _ => 0) (fun _ => .succeeds) hsuccess
  exact ⟨hactive.resolve_right (fun h => absurd h.1 (by decide)), hmedium⟩

end Attempt

section Runs

variable {dev : BlockDevice} {slot : RaucSlot} {Admitted : RaucImage → List UInt8 → Prop}
  {st₀ st : EmmcState}
  {first images : List (List UInt8)}

/-- The partition that the machine boots from holds one of the images, and nothing of it can get
lost. -/
def BootsComplete (images : List (List UInt8)) (st : EmmcState) : Prop :=
  ∀ n, st.active = some n → (st.partition n).device.medium = (st.partition n).device.cache ∧
    ∃ img ∈ images, Stored (st.partition n).device.medium 0 img

lemma BootsComplete.attempt {image : RaucImage} {content : List UInt8} {st' : EmmcState}
    (h : BootsComplete images st)
    (hst' : EmmcOutcome dev image content slot st st') :
    BootsComplete (content.take image.declared :: images) st' := by
  intro n hn
  rcases hst'.register with hkept | ⟨hnew, himaged⟩
  · have hactive : st.active = some n := by
      rw [active_eq_some] at hn ⊢
      rwa [hkept] at hn
    obtain ⟨hmedium, img, himg, hstored⟩ := h n hactive
    rw [hst'.others n (active_ne_target hactive)]
    exact ⟨hmedium, img, List.mem_cons_of_mem _ himg, hstored⟩
  · have hn' := (active_eq_some.mp hn).1
    rw [hnew, (bootPartValue_target st).1] at hn'
    obtain rfl : st.target = n := by omega
    refine ⟨himaged.medium, _, List.mem_cons_self, ?_⟩
    rw [himaged.medium, himaged.cache]
    exact stored_writeAt _ _ _

lemma BootsComplete.flush (h : BootsComplete images st) (n : Nat) (chosen : Nat → Bool) :
    BootsComplete images (st.flush n chosen) := by
  intro k hk
  obtain ⟨hmedium, img, himg, hstored⟩ := h k hk
  by_cases hkn : k = n
  · have hsame : ((st.flush n chosen).partition k).device.medium =
        (st.partition k).device.medium := by
      funext b
      rw [hkn] at hmedium ⊢
      simp only [EmmcState.flush, EmmcState.setPartition, if_pos]
      exact CachedDevice.flush_medium_of_agree (congrFun hmedium b).symm 512 chosen
    have hcache : ((st.flush n chosen).partition k).device.cache =
        (st.partition k).device.cache := by
      rw [hkn]
      simp [EmmcState.flush, EmmcState.setPartition]
    rw [hsame, hcache]
    exact ⟨hmedium, img, himg, hstored⟩
  · have hsame : (st.flush n chosen).partition k = st.partition k := by
      simp [EmmcState.flush, EmmcState.setPartition, hkn]
    rw [hsame]
    exact ⟨hmedium, img, himg, hstored⟩

lemma BootsComplete.crash (h : BootsComplete images st) : BootsComplete images st.crash :=
  fun n hn => ⟨rfl, (h n hn).2⟩

/-- Wherever the attempts end, whatever reaches the media, and whether the commands take effect or
not: the machine boots from a partition that holds a complete image. -/
theorem emmcRun_boots_complete (hstart : BootsComplete first st₀)
    (hrun : EmmcRun dev slot Admitted st₀ images st) :
    BootsComplete (images ++ first) st := by
  induction hrun with
  | start => exact hstart
  | attempted _ image content _ hookName realdev counts flushes switches fates ih =>
    have hready : BootsComplete _ (EmmcState.withChoices _ flushes switches) := ih
    exact hready.attempt (emmcOutcome_handler image content hookName realdev counts _ fates)
  | settled _ n chosen ih => exact ih.flush n chosen
  | crashed _ ih => exact ih.crash

/-- The card after an attempt that breaks off when the other partition has been cleared. -/
def brokenOffCard : EmmcState :=
  (imgToBootEmmcHandler ⟨6, 512⟩ bootCardImage [1, 2] bootCardSlot none "/dev/mmcblk0" (fun _ => 0)
    ⟨bootCard.withChoices (fun _ _ _ _ => true) (fun _ => true), fun i => if i =
      12 then .stops else .succeeds⟩).2.state.crash

lemma brokenOffCard_run : EmmcRun ⟨6, 512⟩ bootCardSlot DeclaredSize bootCard
    [[1, 2]] brokenOffCard := by
  have hstart : EmmcRun ⟨6, 512⟩ bootCardSlot DeclaredSize bootCard [] bootCard := .start
  exact (hstart.attempted bootCardImage [1, 2] rfl none "/dev/mmcblk0" (fun _ => 0) (fun _ _ _ _ =>
    true) (fun _ => true)
    (fun i => if i = 12 then .stops else .succeeds)).crashed

/-- It still boots from the first partition. -/
theorem emmcRun_boots_card : (brokenOffCard.partition 1).device.medium 0 = 0 ∧
    brokenOffCard.active = some 0 ∧
    BootsComplete [[1, 2], [7]] brokenOffCard := by
  have hstart : BootsComplete [[7]] bootCard := by
    intro n hn
    obtain ⟨henable, -⟩ := active_eq_some.mp hn
    have hone : bootPartitionEnable bootCard.partConfig = 1 := by decide
    obtain rfl : n = 0 := by omega
    refine ⟨rfl, [7], by simp, ?_⟩
    intro k x hx
    obtain ⟨hk, rfl⟩ := List.getElem?_eq_some_iff.mp hx
    obtain rfl : k = 0 := by simpa using hk
    rfl
  exact ⟨by decide +kernel, by decide +kernel, emmcRun_boots_complete hstart brokenOffCard_run⟩

/-- The bytes from the limit on are the ones that were there in the beginning. -/
def TailsKept (limit : Nat) (st₀ st : EmmcState) : Prop :=
  ∀ n b, limit ≤ b → (st.partition n).device.cache b = (st₀.partition n).device.medium b ∧
    (st.partition n).device.medium b = (st₀.partition n).device.medium b

lemma TailsKept.attempt {image : RaucImage} {content : List UInt8} {st' : EmmcState}
    (h : TailsKept slot.sizeLimit st₀ st) (hlimit : 0 < slot.sizeLimit)
    (hsize : DeclaredSize image content)
    (hst' : EmmcOutcome dev image content slot st st') : TailsKept slot.sizeLimit st₀ st' := by
  intro n b hb
  obtain ⟨hcache, hmedium⟩ := h n b hb
  by_cases hn : n = st.target
  · rw [hn] at hcache hmedium ⊢
    obtain ⟨hsame, hpart⟩ := hst'.tail hsize hlimit b hb
    refine ⟨hsame.trans hcache, ?_⟩
    rcases hpart with hpart | hpart
    · exact hpart.trans hmedium
    · exact hpart.trans hcache
  · rw [hst'.others n hn]
    exact ⟨hcache, hmedium⟩

lemma TailsKept.flush {limit : Nat} (h : TailsKept limit st₀ st) (n : Nat) (chosen : Nat → Bool) :
    TailsKept limit st₀ (st.flush n chosen) := by
  intro k b hb
  obtain ⟨hcache, hmedium⟩ := h k b hb
  by_cases hkn : k = n
  · rw [hkn] at hcache hmedium ⊢
    simp only [EmmcState.flush, EmmcState.setPartition, if_pos]
    refine ⟨hcache, ?_⟩
    rw [CachedDevice.flush_medium_of_agree (hcache.trans hmedium.symm)]
    exact hmedium
  · have hsame : (st.flush n chosen).partition k = st.partition k := by
      simp [EmmcState.flush, EmmcState.setPartition, hkn]
    rw [hsame]
    exact ⟨hcache, hmedium⟩

/-- Data behind the size limit survives any number of attempts with files of the declared size,
wherever they end. -/
theorem emmcRun_keeps_tails (hlimit : 0 < slot.sizeLimit)
    (hstart : ∀ n b, slot.sizeLimit ≤ b → (st₀.partition n).device.cache b =
      (st₀.partition n).device.medium b)
    (hrun : EmmcRun dev slot DeclaredSize st₀ images st) : TailsKept slot.sizeLimit st₀ st := by
  induction hrun with
  | start => exact fun n b hb => ⟨hstart n b hb, rfl⟩
  | attempted _ image content hsize hookName realdev counts flushes switches fates ih =>
    have hready : TailsKept slot.sizeLimit st₀ (EmmcState.withChoices _ flushes switches) := ih
    exact hready.attempt hlimit hsize (emmcOutcome_handler image content hookName realdev
      counts _ fates)
  | settled _ n chosen ih => exact ih.flush n chosen
  | crashed _ ih => exact fun n b hb => ⟨(ih n b hb).2, (ih n b hb).2⟩

/-- The last bytes of the partition that was being written. -/
theorem emmcRun_keeps_tails_card :
    (brokenOffCard.partition 1).device.medium 0 = 0 ∧
      (brokenOffCard.partition 1).device.medium 4 = 8 :=
  ⟨by decide +kernel,
    (emmcRun_keeps_tails (by decide) (fun _ _ _ => rfl) brokenOffCard_run 1 4 (by decide)).2⟩

end Runs

end RaucUpdate
