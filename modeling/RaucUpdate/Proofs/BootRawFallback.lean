import RaucUpdate.Model.BootRawFallback

/-!
# One half of the boot region is always complete

The header of the first half tells the next run which half may be overwritten. This works as long as
a write to that header is not overtaken by other writes on its way to the medium. The invariant
relates what the handler reads and what a crash would leave.
-/

namespace RaucUpdate

open Library

section Region

def ClearHeader (p : Nat) (v : Nat → UInt8) : Prop :=
  ∀ i < headerSize, isClearByte (v (p + i)) = true

/-- One of the images stands at the position. -/
def Complete (Known : List UInt8 → Prop) (v : Nat → UInt8) (pos : Nat) : Prop :=
  ∃ img, Known img ∧ Stored v pos img

/-- The sectors that reach the medium do not overtake a write to the header of the first half: it is
there already, or it comes along, or nothing new comes. -/
def HeaderFirst (p : Nat) (d : CachedDevice UInt8) (chosen : Nat → Bool) : Prop :=
  (∀ i < headerSize, d.medium (p + i) = d.cache (p + i)) ∨ chosen (p / headerSize) = true ∨
    ∀ b, chosen (b / headerSize) = true → d.cache b = d.medium b

/-- A header that is not clear vouches for the first half, a clear one for the second; and the half
that the handler relies on is on the medium as it is in the cache, but for the header. -/
structure FallbackInv (p h : Nat) (Known : List UInt8 → Prop) (d : CachedDevice UInt8) : Prop where
  cachePrimary : ¬ClearHeader p d.cache →
    Complete Known d.cache p ∧ ∀ i, headerSize ≤ i → i < h → d.cache (p + i) = d.medium (p + i)
  cacheFallback : ClearHeader p d.cache →
    Complete Known d.cache (p + h) ∧ ∀ i < h, d.cache (p + h + i) = d.medium (p + h + i)
  mediumPrimary : ¬ClearHeader p d.medium → Complete Known d.medium p
  mediumFallback : ClearHeader p d.medium → Complete Known d.medium (p + h)
  large : 2 ^ 32 ≤ h → ¬ClearHeader p d.cache ∧ ¬ClearHeader p d.medium

variable {p h : Nat} {Known : List UInt8 → Prop} {d : CachedDevice UInt8}

lemma ClearHeader.congr {v w : Nat → UInt8} (hsame : ∀ i < headerSize, w (p + i) = v (p + i))
    (hv : ClearHeader p v) :
    ClearHeader p w := by
  intro i hi
  rw [hsame i hi]
  exact hv i hi

lemma clearHeader_congr {v w : Nat → UInt8} (hsame : ∀ i < headerSize, w (p + i) = v (p + i)) :
    ClearHeader p w ↔ ClearHeader p v :=
  ⟨ClearHeader.congr (fun i hi => (hsame i hi).symm), ClearHeader.congr hsame⟩

lemma Complete.congr {v w : Nat → UInt8} {pos : Nat} (hfits : ∀ img, Known img → img.length ≤ h)
    (hsame : ∀ i < h, w (pos + i) = v (pos + i)) (hv : Complete Known v pos) :
      Complete Known w pos := by
  obtain ⟨img, hknown, hstored⟩ := hv
  refine ⟨img, hknown, hstored.congr ?_⟩
  intro k hk
  exact hsame k (lt_of_lt_of_le hk (hfits img hknown))

/-- A header sector that is on the medium as it is in the cache makes the medium as good as the
cache. -/
lemma FallbackInv.of_cache (hfits : ∀ img, Known img → img.length ≤ h)
    (hprimary : ¬ClearHeader p d.cache →
      Complete Known d.cache p ∧ ∀ i, headerSize ≤ i → i < h → d.cache (p + i) = d.medium (p + i))
    (hfallback : ClearHeader p d.cache →
      Complete Known d.cache (p + h) ∧ ∀ i < h, d.cache (p + h + i) = d.medium (p + h + i))
    (hlarge : 2 ^ 32 ≤ h → ¬ClearHeader p d.cache)
    (hheader : ∀ i < headerSize, d.medium (p + i) = d.cache (p + i)) : FallbackInv p h Known d := by
  have hclear := clearHeader_congr hheader
  refine ⟨hprimary, hfallback, ?_, ?_, ?_⟩
  · intro hm
    obtain ⟨hcomplete, hbody⟩ := hprimary (fun hc => hm (hclear.mpr hc))
    apply Complete.congr hfits _ hcomplete
    intro i hi
    by_cases hsector : i < headerSize
    · exact hheader i hsector
    · exact (hbody i (Nat.le_of_not_lt hsector) hi).symm
  · intro hm
    obtain ⟨hcomplete, hsame⟩ := hfallback (hclear.mp hm)
    exact Complete.congr hfits (fun i hi => (hsame i hi).symm) hcomplete
  · intro hl
    exact ⟨hlarge hl, fun hm => hlarge hl (hclear.mp hm)⟩

lemma FallbackInv.sync (hfits : ∀ img, Known img → img.length ≤ h)
    (hinv : FallbackInv p h Known d) :
    FallbackInv p h Known d.sync :=
  FallbackInv.of_cache hfits (fun hc => ⟨(hinv.cachePrimary hc).1, fun _ _ _ => rfl⟩)
    (fun hc => ⟨(hinv.cacheFallback hc).1, fun _ _ => rfl⟩) (fun hl => (hinv.large hl).1)
      (fun _ _ => rfl)

lemma FallbackInv.crash (hinv : FallbackInv p h Known d) : FallbackInv p h Known d.crash where
  cachePrimary hc := ⟨hinv.mediumPrimary hc, fun _ _ _ => rfl⟩
  cacheFallback hc := ⟨hinv.mediumFallback hc, fun _ _ => rfl⟩
  mediumPrimary := hinv.mediumPrimary
  mediumFallback := hinv.mediumFallback
  large hl := ⟨(hinv.large hl).2, (hinv.large hl).2⟩

lemma FallbackInv.flush (hfits : ∀ img, Known img → img.length ≤ h) (hp : p % headerSize = 0)
    (hinv : FallbackInv p h Known d) {chosen : Nat → Bool} (hchosen : HeaderFirst p d chosen) :
    FallbackInv p h Known (d.flush 512 chosen) := by
  have hsector : ∀ i < headerSize, (p + i) / 512 = p / headerSize := by
    intro i hi
    unfold headerSize at *
    omega
  have hcome : (∀ i < headerSize, (d.flush 512 chosen).medium (p + i) = d.cache (p + i)) →
      FallbackInv p h Known (d.flush 512 chosen) := by
    intro hheader
    refine FallbackInv.of_cache (d := d.flush 512 chosen) hfits ?_ ?_ (fun hl => (hinv.large hl).1)
      hheader
    · intro hc
      obtain ⟨hcomplete, hbody⟩ := hinv.cachePrimary hc
      refine ⟨hcomplete, fun i hi hih => ?_⟩
      rw [CachedDevice.flush_medium_of_agree (hbody i hi hih)]
      exact hbody i hi hih
    · intro hc
      obtain ⟨hcomplete, hsame⟩ := hinv.cacheFallback hc
      refine ⟨hcomplete, fun i hi => ?_⟩
      rw [CachedDevice.flush_medium_of_agree (hsame i hi)]
      exact hsame i hi
  rcases hchosen with harrived | hcomes | hnothing
  · apply hcome
    intro i hi
    rw [CachedDevice.flush_medium_of_agree (harrived i hi).symm]
    exact harrived i hi
  · apply hcome
    intro i hi
    rw [CachedDevice.flush_medium, hsector i hi, if_pos hcomes]
  · have hsame : d.flush 512 chosen = d := by
      have hmedium : (d.flush 512 chosen).medium = d.medium := by
        funext b
        rw [CachedDevice.flush_medium]
        split_ifs with hb
        · exact hnothing b hb
        · rfl
      rcases d with ⟨cache, medium⟩
      exact congrArg (CachedDevice.mk cache) hmedium
    rw [hsame]
    exact hinv

/-- While the header vouches for the first half, anything may be written behind it. -/
lemma FallbackInv.write_fallback (hfits : ∀ img, Known img → img.length ≤ h) (hh : headerSize ≤ h)
    (hinv : FallbackInv p h Known d) (hc : ¬ClearHeader p d.cache) {pos : Nat} (bytes : List UInt8)
    (hpos : p + h ≤ pos) :
    FallbackInv p h Known (d.write pos bytes) ∧ ¬ClearHeader p (d.write pos bytes).cache := by
  have hsame : ∀ i < h, (d.write pos bytes).cache (p + i) = d.cache (p + i) := by
    intro i hi
    exact writeAt_outside (by omega)
  have hnot : ¬ClearHeader p (d.write pos bytes).cache := by
    rw [clearHeader_congr (fun i hi => hsame i (lt_of_lt_of_le hi hh))]
    exact hc
  obtain ⟨hcomplete, hbody⟩ := hinv.cachePrimary hc
  refine ⟨⟨fun _ => ⟨hcomplete.congr hfits hsame, ?_⟩, fun hclear => absurd hclear hnot,
    hinv.mediumPrimary,
    hinv.mediumFallback, fun hl => ⟨hnot, (hinv.large hl).2⟩⟩, hnot⟩
  intro i hi hih
  rw [hsame i hih]
  exact hbody i hi hih

/-- While the header is clear, anything may be written to the rest of the first half. -/
lemma FallbackInv.write_primary (hfits : ∀ img, Known img → img.length ≤ h)
    (hinv : FallbackInv p h Known d)
    (hc : ClearHeader p d.cache) {pos : Nat} (bytes : List UInt8) (hpos : p + headerSize ≤ pos)
    (hend : pos + bytes.length ≤ p + h) :
    FallbackInv p h Known (d.write pos bytes) ∧ ClearHeader p (d.write pos bytes).cache := by
  have hclear : ClearHeader p (d.write pos bytes).cache := by
    apply ClearHeader.congr _ hc
    intro i hi
    exact writeAt_outside (by omega)
  have hsame : ∀ i < h, (d.write pos bytes).cache (p + h + i) = d.cache (p + h + i) := by
    intro i hi
    exact writeAt_outside (by omega)
  obtain ⟨hcomplete, hagree⟩ := hinv.cacheFallback hc
  refine ⟨⟨fun hnot => absurd hclear hnot, fun _ => ⟨hcomplete.congr hfits hsame, ?_⟩,
    hinv.mediumPrimary,
    hinv.mediumFallback, fun hl => absurd hc (hinv.large hl).1⟩, hclear⟩
  intro i hi
  rw [hsame i hi]
  exact hagree i hi

/-- The second half can be relied on, so the first one may be given up. -/
structure Replaceable (p h : Nat) (Known : List UInt8 → Prop) (d : CachedDevice UInt8) : Prop where
  complete : Complete Known d.cache (p + h)
  agree : ∀ i < h, d.cache (p + h + i) = d.medium (p + h + i)
  small : h < 2 ^ 32

lemma Replaceable.flush (hr : Replaceable p h Known d) (chosen : Nat → Bool) :
    Replaceable p h Known (d.flush 512 chosen) := by
  refine ⟨hr.complete, ?_, hr.small⟩
  intro i hi
  rw [CachedDevice.flush_medium_of_agree (hr.agree i hi)]
  exact hr.agree i hi

lemma isClearByte_zero : isClearByte 0 = true := by decide

/-- Clearing the header of the first half. -/
lemma FallbackInv.clear_header (hfits : ∀ img, Known img → img.length ≤ h) (hh : headerSize ≤ h)
    (hinv : FallbackInv p h Known d) (hr : Replaceable p h Known d) :
    FallbackInv p h Known (d.write p (List.replicate 512 0)) ∧
      ClearHeader p (d.write p (List.replicate 512 0)).cache := by
  have hclear : ClearHeader p (d.write p (List.replicate 512 0)).cache := by
    intro i hi
    have hzero : (List.replicate 512 (0 : UInt8))[i]? = some 0 := by
      unfold headerSize at hi
      rw [List.getElem?_replicate, if_pos hi]
    rw [CachedDevice.write_cache, stored_writeAt d.cache p _ i 0 hzero]
    exact isClearByte_zero
  have hsame : ∀ i < h, (d.write p (List.replicate 512 0)).cache (p + h + i) =
      d.cache (p + h + i) := by
    intro i hi
    apply writeAt_outside
    rw [List.length_replicate]
    unfold headerSize at hh
    omega
  have hsmall := hr.small
  refine ⟨⟨fun hnot => absurd hclear hnot, fun _ => ⟨hr.complete.congr hfits hsame, ?_⟩,
    hinv.mediumPrimary,
    hinv.mediumFallback, fun hl => by omega⟩, hclear⟩
  intro i hi
  rw [hsame i hi]
  exact hr.agree i hi

/-- What `read_all` takes as the header, and what is left for the copy. -/
lemma header_append (content : List UInt8) :
    content.take headerSize ++ content.drop (content.take headerSize).length = content := by
  rw [List.length_take]
  rcases Nat.le_total headerSize content.length with hle | hle
  · rw [Nat.min_eq_left hle, List.take_append_drop]
  · rw [Nat.min_eq_right hle, List.drop_length, List.append_nil, List.take_of_length_le hle]

lemma stored_with_header {content : List UInt8} {v : Nat → UInt8} {pos : Nat}
    (hbody : Stored v (pos + (content.take headerSize).length)
      (content.drop (content.take headerSize).length)) :
    Stored (writeAt v pos (content.take headerSize)) pos content := by
  have hparts : Stored (writeAt v pos (content.take headerSize)) pos
      (content.take headerSize ++ content.drop (content.take headerSize).length) := by
    apply stored_append.mpr
    exact ⟨stored_writeAt v pos _, hbody.writeAt (.inl (le_refl _))⟩
  rwa [header_append] at hparts

lemma PlainHeader.not_clear {content : List UInt8} {v : Nat → UInt8} (hplain : PlainHeader content)
    (hstored : Stored v p content) : ¬ClearHeader p v := by
  obtain ⟨k, hk, b, hb, hnot⟩ := hplain
  intro hclear
  have hbyte := hclear k hk
  rw [hstored k b hb, hnot] at hbyte
  exact absurd hbyte (by decide)

/-- The header goes to the first half when the rest of the image is on the medium. -/
lemma FallbackInv.write_header {content : List UInt8} (hknown : Known content)
    (hplain : PlainHeader content)
    (hinv : FallbackInv p h Known d) (hc : ClearHeader p d.cache) (hsync : d.medium = d.cache)
    (hbody : Stored d.cache (p + (content.take headerSize).length)
      (content.drop (content.take headerSize).length)) :
    FallbackInv p h Known (d.write p (content.take headerSize)) ∧
      ¬ClearHeader p (d.write p (content.take headerSize)).cache := by
  have hlen : (content.take headerSize).length ≤ headerSize := by
    rw [List.length_take]
    exact Nat.min_le_left _ _
  have hstored : Stored (d.write p (content.take headerSize)).cache p content :=
    stored_with_header hbody
  have hnot := hplain.not_clear hstored
  refine ⟨⟨fun _ => ⟨⟨content, hknown, hstored⟩, ?_⟩, fun hclear => absurd hclear hnot,
    hinv.mediumPrimary,
    hinv.mediumFallback, fun hl => absurd hc (hinv.large hl).1⟩, hnot⟩
  intro i hi hih
  rw [CachedDevice.write_medium, hsync]
  exact writeAt_outside (by omega)

end Region

section Programs

variable {p h : Nat} {Known : List UInt8 → Prop}

/-- The invariant and a further assertion about the device, while no header is overtaken. -/
def Holding (p h : Nat) (Known : List UInt8 → Prop) (R : CachedDevice UInt8 → Prop)
    (st : DiskState) : Prop :=
  FallbackInv p h Known st.device ∧ R st.device ∧ ∀ n d, HeaderFirst p d (st.flushes n d)

/-- The program takes one assertion to another and keeps the invariant on every way out. -/
def Keeps (p h : Nat) (Known : List UInt8 → Prop) {α : Type} (R : CachedDevice UInt8 → Prop)
    (prog : DiskProg α)
    (R' : α → CachedDevice UInt8 → Prop) : Prop :=
  Prog.Triple (Holding p h Known R) prog (fun a => Holding p h Known (R' a))
    (fun _ => Holding p h Known (fun _ => True))

/-- What is in the cache stays true when sectors get to the medium, and so does that there is
nothing to write. -/
def Lasting (R : CachedDevice UInt8 → Prop) : Prop := ∀ d chosen, R d → R (d.flush 512 chosen)

variable {α β : Type} {R R' R'' : CachedDevice UInt8 → Prop}

lemma lasting_sync (C : (Nat → UInt8) → Prop) :
    Lasting (fun d => C d.cache ∧ d.medium = d.cache) := by
  rintro d chosen ⟨hC, hsync⟩
  refine ⟨hC, ?_⟩
  funext b
  rw [CachedDevice.flush_medium_of_agree (by rw [hsync]), hsync]
  rfl

lemma keeps_bind {Q : α → CachedDevice UInt8 → Prop} {Q' : β → CachedDevice UInt8 → Prop}
    {prog : DiskProg α}
    {f : α → DiskProg β} (hprog : Keeps p h Known R prog Q)
    (hf : ∀ a, Keeps p h Known (Q a) (f a) Q') :
    Keeps p h Known R (prog >>= f) Q' :=
  Prog.triple_bind hprog hf

lemma keeps_pure {a : α} {Q : α → CachedDevice UInt8 → Prop} (hQ : ∀ d, R d → Q a d) :
    Keeps p h Known R (pure a) Q :=
  Prog.triple_pure (fun _ hst => ⟨hst.1, hQ _ hst.2.1, hst.2.2⟩)

lemma keeps_fail (e : GError) (Q : α → CachedDevice UInt8 → Prop) :
    Keeps p h Known R (Prog.fail e) Q :=
  Prog.triple_exit (fun _ hst => ⟨hst.1, trivial, hst.2.2⟩)

lemma keeps_fact {C : Prop} {Q : α → CachedDevice UInt8 → Prop} {prog : DiskProg α}
    (hprog : C → Keeps p h Known R prog Q) :
    Keeps p h Known (fun d => C ∧ R d) prog Q :=
  fun w hw => hprog hw.2.1.1 w ⟨hw.1, hw.2.1.2, hw.2.2⟩

lemma keeps_weaken {Q Q' : α → CachedDevice UInt8 → Prop} {prog : DiskProg α}
    (hprog : Keeps p h Known R prog Q)
    (hR : ∀ d, FallbackInv p h Known d → R' d → R d) (hQ : ∀ a d, Q a d → Q' a d) :
      Keeps p h Known R' prog Q' :=
  Prog.triple_consequence hprog (fun _ hst => ⟨hst.1, hR _ hst.1 hst.2.1, hst.2.2⟩)
    (fun a _ hst => ⟨hst.1, hQ a _ hst.2.1, hst.2.2⟩) (fun _ _ hst => hst)

lemma keeps_mapError {Q : α → CachedDevice UInt8 → Prop} {prog : DiskProg α}
    (hprog : Keeps p h Known R prog Q)
    (f : GError → GError) : Keeps p h Known R (Prog.mapError f prog) Q :=
  Prog.triple_mapError hprog (fun _ _ hst => hst)

lemma Keeps.inv {Q : α → CachedDevice UInt8 → Prop} {prog : DiskProg α}
    (hprog : Keeps p h Known R prog Q)
    {w : World DiskState} (hw : Holding p h Known R w.state) :
      FallbackInv p h Known (prog w).2.state.device := by
  cases hr : (prog w).1 with
  | value a => exact (hprog.value hw hr).1
  | exit x => exact (hprog.exit hw hr).1

variable (hfits : ∀ img, Known img → img.length ≤ h) (hp : p % headerSize = 0)

include hfits hp

lemma keeps_diskStep {effect : CachedDevice UInt8 → CachedDevice UInt8} {report : Failure → GError}
    (hR : Lasting R)
    (heffect : ∀ d, FallbackInv p h Known d → R d → FallbackInv p h Known (effect d) ∧
      R' (effect d)) :
    Keeps p h Known R (diskStep effect report) (fun _ => R') := by
  have hsettle : Prog.Triple (Holding p h Known R) (Prog.modify DiskState.settle)
      (fun _ => Holding p h Known R) (fun (_ : Exit GError) =>
        Holding p h Known (fun _ => True)) := by
    apply Prog.triple_modify
    rintro st ⟨hinv, hr, hflushes⟩
    exact ⟨hinv.flush hfits hp (hflushes 0 st.device), hR _ _ hr, fun n => hflushes (n + 1)⟩
  apply Prog.triple_bind hsettle
  intro _
  apply Prog.triple_external
  · rintro st ⟨hinv, hr, hflushes⟩
    obtain ⟨hnew, hr'⟩ := heffect _ hinv hr
    exact ⟨hnew, hr', hflushes⟩
  · rintro st ⟨hinv, -, hflushes⟩ failure
    exact ⟨hinv, trivial, hflushes⟩
  · rintro st ⟨hinv, -, hflushes⟩
    exact ⟨hinv, trivial, hflushes⟩

lemma keeps_idle {report : Failure → GError} (hR : Lasting R) :
    Keeps p h Known R (diskStep id report) (fun _ => R) :=
  keeps_diskStep hfits hp hR (fun _ hinv hr => ⟨hinv, hr⟩)

/-- A position that is a multiple of the header size is not the one that a failed seek is mistaken
for. -/
lemma keeps_seekTo {start : Nat} {report : Failure → GError} (hstart : start % headerSize = 0)
    (hR : Lasting R) :
    Keeps p h Known R (seekTo start report) (fun pos d => pos = start ∧ R d) := by
  have hplace : start ≠ 2 ^ 64 - 1 := by
    rintro rfl
    exact absurd hstart (by decide)
  unfold seekTo
  rw [if_neg hplace]
  apply keeps_bind (keeps_idle hfits hp hR)
  intro _
  exact keeps_pure (fun d hd => ⟨rfl, hd⟩)

lemma keeps_fsync {C : (Nat → UInt8) → Prop} :
    Keeps p h Known (fun d => C d.cache) fsync (fun _ d => C d.cache ∧ d.medium = d.cache) :=
  keeps_diskStep hfits hp (fun _ _ hd => hd) (fun _ hinv hC => ⟨hinv.sync hfits, hC, rfl⟩)

/-- Clearing behind the first half succeeds only if the count does not wrap. -/
lemma keeps_clearLoop_fallback (hh : headerSize ≤ h) (size left pos clearCount : Nat)
    (hpos : p + h ≤ pos)
    (hcount : clearCount < 2 ^ 32) :
    Keeps p h Known (fun d => ¬ClearHeader p d.cache) (clearLoop size left pos clearCount)
      (fun _ d => size < 2 ^ 32 ∧ ¬ClearHeader p d.cache) := by
  induction left generalizing pos clearCount with
  | zero =>
    unfold clearLoop
    split_ifs with hsize
    · exact keeps_pure (fun d hd => ⟨by omega, hd⟩)
    · exact keeps_fail _ _
  | succ left ih =>
    unfold clearLoop
    split_ifs with hless hsize
    · have hstep : Keeps p h Known (fun d => ¬ClearHeader p d.cache)
          (diskStep (fun d => d.write pos (List.replicate 512 0))
            (updateFailed "Failed to clear partition: "))
          (fun _ d => ¬ClearHeader p d.cache) :=
        keeps_diskStep hfits hp (fun _ _ hd => hd) (fun d hinv hc =>
          hinv.write_fallback hfits hh hc _ hpos)
      apply keeps_bind hstep
      intro _
      exact ih (pos + 512) _ (by omega) (Nat.mod_lt _ (by decide))
    · exact keeps_pure (fun d hd => ⟨by omega, hd⟩)
    · exact keeps_fail _ _

lemma keeps_clearLoop_primary (hsmall : h < 2 ^ 32) (hh : h % headerSize = 0)
    (left clearCount : Nat)
    (hpast : headerSize ≤ clearCount) (hcount : clearCount % headerSize = 0) :
    Keeps p h Known (fun d => ClearHeader p d.cache) (clearLoop h left (p + clearCount) clearCount)
      (fun _ d => ClearHeader p d.cache) := by
  induction left generalizing clearCount with
  | zero =>
    unfold clearLoop
    split_ifs
    · exact keeps_pure (fun d hd => hd)
    · exact keeps_fail _ _
  | succ left ih =>
    unfold clearLoop
    split_ifs with hless hsize
    · unfold headerSize at hh hpast hcount
      have hroom : clearCount + 512 ≤ h := by omega
      have hstep : Keeps p h Known (fun d => ClearHeader p d.cache)
          (diskStep (fun d => d.write (p + clearCount) (List.replicate 512 0))
            (updateFailed "Failed to clear partition: "))
          (fun _ d => ClearHeader p d.cache) := by
        apply keeps_diskStep hfits hp (fun _ _ hd => hd)
        intro d hinv hc
        apply hinv.write_primary hfits hc
        · unfold headerSize
          omega
        · rw [List.length_replicate]
          omega
      apply keeps_bind hstep
      intro _
      rw [Nat.mod_eq_of_lt (by omega), Nat.add_assoc]
      exact ih (clearCount + 512) (by unfold headerSize; omega) (by unfold headerSize; omega)
    · exact keeps_pure (fun d hd => hd)
    · exact keeps_fail _ _

variable (dev : BlockDevice)

lemma keeps_clear_fallback (hh : headerSize ≤ h) (haligned : h % headerSize = 0) :
    Keeps p h Known (fun d => ¬ClearHeader p d.cache) (clearBootSwitchPartition dev ⟨p + h, h⟩)
      (fun _ d => h < 2 ^ 32 ∧ ¬ClearHeader p d.cache) := by
  apply keeps_bind (keeps_idle hfits hp (fun _ _ hd => hd))
  intro _
  have hplace : (p + h) % headerSize = 0 := by
    unfold headerSize at *
    omega
  apply keeps_bind (keeps_seekTo hfits hp hplace (fun _ _ hd => hd))
  intro pos
  apply keeps_fact
  intro hpos
  subst pos
  exact keeps_clearLoop_fallback hfits hp hh h _ _ 0 (le_refl _) (by decide)

/-- The header is the first sector that is cleared. -/
lemma keeps_clear_primary (hh : headerSize ≤ h) (haligned : h % headerSize = 0)
    (hsmall : h < 2 ^ 32) :
    Keeps p h Known (Replaceable p h Known) (clearBootSwitchPartition dev ⟨p, h⟩) (fun _ d =>
      ClearHeader p d.cache) := by
  have hlasting : Lasting (Replaceable p h Known) := fun d chosen hr => hr.flush chosen
  apply keeps_bind (keeps_idle hfits hp hlasting)
  intro _
  apply keeps_bind (keeps_seekTo hfits hp hp hlasting)
  intro pos
  apply keeps_fact
  intro hpos
  subst pos
  dsimp only
  cases (dev.size - p) / 512 with
  | zero =>
    unfold clearLoop
    rw [if_neg (by unfold headerSize at hh; omega)]
    exact keeps_fail _ _
  | succ left =>
    unfold clearLoop
    rw [if_pos (by unfold headerSize at hh; omega)]
    have hstep : Keeps p h Known (Replaceable p h Known)
        (diskStep (fun d => d.write p (List.replicate 512 0))
          (updateFailed "Failed to clear partition: "))
        (fun _ d => ClearHeader p d.cache) :=
      keeps_diskStep hfits hp hlasting (fun d hinv hr => hinv.clear_header hfits hh hr)
    apply keeps_bind hstep
    intro _
    exact keeps_clearLoop_primary hfits hp hsmall haligned left 512 (le_refl _) (by decide)

section Write

omit hfits hp

lemma flatten_pieces {n : Nat} (hn : 0 < n) (fuel : Nat) (content : List UInt8)
    (hfuel : content.length ≤ fuel) :
    (pieces n fuel content).flatten = content := by
  induction fuel generalizing content with
  | zero =>
    have hnil := List.eq_nil_of_length_eq_zero (Nat.le_zero.mp hfuel)
    rw [hnil]
    rfl
  | succ fuel ih =>
    unfold pieces
    split_ifs with hnil
    · rw [hnil]
      rfl
    · have hpos := List.length_pos_iff.mpr hnil
      have hrest : (content.drop n).length ≤ fuel := by
        rw [List.length_drop]
        omega
      rw [List.flatten_cons, ih _ hrest, List.take_append_drop]

lemma PlainHeader.ne_nil {content : List UInt8} (hplain : PlainHeader content) : content ≠ [] := by
  obtain ⟨k, -, b, hb, -⟩ := hplain
  rintro rfl
  simp at hb

end Write

variable {start : Nat} {B : (Nat → UInt8) → Prop}

/-- Writing the parts of an image one after the other, behind what was written before. -/
lemma keeps_writePieces (base : Nat) (pieces : List (List UInt8)) (done : List UInt8)
    (hbody : ∀ d pos bytes, FallbackInv p h Known d → B d.cache → base ≤ pos →
      pos + bytes.length ≤ base + done.length + pieces.flatten.length →
      FallbackInv p h Known (d.write pos bytes) ∧ B (d.write pos bytes).cache) :
    Keeps p h Known (fun d => B d.cache ∧ Stored d.cache base done)
      (writePieces dev pieces (base + done.length))
      (fun _ d => B d.cache ∧ Stored d.cache base (done ++ pieces.flatten)) := by
  induction pieces generalizing done with
  | nil =>
    apply keeps_pure
    intro d hd
    simpa using hd
  | cons piece rest ih =>
    have hlen : base + (done ++ piece).length + rest.flatten.length =
        base + done.length + (piece :: rest).flatten.length := by
      simp only [List.length_append, List.flatten_cons]
      omega
    have hmore :=
      ih (done ++ piece) (fun d pos bytes hinv hB hpos hend =>
      hbody d pos bytes hinv hB hpos (by omega))
    unfold writePieces
    split_ifs with hspace
    · exact keeps_fail _ _
    · have hstep : Keeps p h Known (fun d => B d.cache ∧ Stored d.cache base done)
          (diskStep (fun d => d.write (base + done.length) piece)
            (updateFailed "Error writing to file descriptor: "))
          (fun _ d => B d.cache ∧ Stored d.cache base (done ++ piece)) := by
        apply keeps_diskStep hfits hp (fun _ _ hd => hd)
        rintro d hinv ⟨hB, hstored⟩
        obtain ⟨hnew, hB'⟩ := hbody d (base + done.length) piece hinv hB (by omega) (by
          simp only [List.flatten_cons, List.length_append]
          omega)
        refine ⟨hnew, hB', stored_append.mpr ⟨hstored.writeAt (.inr (le_refl _)),
          stored_writeAt _ _ _⟩⟩
      apply keeps_bind hstep
      intro _
      have hnext : base + done.length + piece.length = base + (done ++ piece).length := by
        rw [List.length_append, Nat.add_assoc]
      rw [hnext, List.flatten_cons, ← List.append_assoc]
      exact hmore

lemma keeps_readHeader (content : List UInt8) :
    Keeps p h Known (fun d => B d.cache) (readHeader dev content headerSize)
      (fun header d => header = content.take headerSize ∧ B d.cache) := by
  unfold readHeader
  rw [if_neg (by decide)]
  split_ifs with hsector
  · exact keeps_fail _ _
  · apply keeps_bind (keeps_idle hfits hp (fun _ _ hd => hd))
    intro _
    apply keeps_bind (keeps_idle hfits hp (fun _ _ hd => hd))
    intro _
    exact keeps_pure (fun d hd => ⟨rfl, hd⟩)

variable {content : List UInt8}

/-- Everything but the header. There is nothing left for the copy unless the header is a whole
sector. -/
lemma keeps_copyBody {size : Int} (hsize : size ≠ 0)
    (hbody : ∀ d pos bytes, FallbackInv p h Known d → B d.cache → start + headerSize ≤ pos →
      pos + bytes.length ≤ start + content.length →
      FallbackInv p h Known (d.write pos bytes) ∧ B (d.write pos bytes).cache) :
    Keeps p h Known (fun d => B d.cache)
      (rCopyStreamWithProgress dev (content.drop (content.take headerSize).length) size
        (start + (content.take headerSize).length))
      (fun _ d => B d.cache ∧
        Stored d.cache (start + (content.take headerSize).length)
          (content.drop (content.take headerSize).length)) := by
  have hpieces :=
    flatten_pieces (n := 8192) (by decide) (content.drop (content.take headerSize).length).length
    (content.drop (content.take headerSize).length) (le_refl _)
  have hwrite := keeps_writePieces hfits hp dev (B := B) (start + (content.take headerSize).length)
    (pieces 8192 (content.drop (content.take headerSize).length).length
      (content.drop (content.take headerSize).length)) []
  rw [hpieces] at hwrite
  have hcopy := hwrite (by
    intro d pos bytes hinv hB hpos hend
    rw [List.length_drop, List.length_take, List.length_nil] at hend
    rw [List.length_take] at hpos
    by_cases hfull : headerSize ≤ content.length
    · rw [Nat.min_eq_left hfull] at hpos hend
      exact hbody d pos bytes hinv hB hpos (by omega)
    · have hnil : bytes = [] := List.eq_nil_of_length_eq_zero (by omega)
      rw [hnil, CachedDevice.write_nil]
      exact ⟨hinv, hB⟩)
  unfold rCopyStreamWithProgress
  rw [if_neg hsize]
  exact keeps_weaken hcopy (fun d _ hB => ⟨hB, stored_nil _ _⟩) (fun _ _ hd => hd)

lemma keeps_writeHeader {C E : (Nat → UInt8) → Prop} (hnil : content.take headerSize ≠ [])
    (hheader : ∀ d, FallbackInv p h Known d → C d.cache → d.medium = d.cache →
      FallbackInv p h Known (d.write start (content.take headerSize)) ∧
        E (d.write start (content.take headerSize)).cache) :
    Keeps p h Known (fun d => C d.cache) (writeHeader (content.take headerSize) start) (fun _ d =>
      E d.cache) := by
  unfold writeHeader
  rw [if_neg hnil]
  apply keeps_bind (keeps_fsync hfits hp)
  intro _
  apply keeps_bind (keeps_idle hfits hp (lasting_sync C))
  intro _
  exact keeps_diskStep hfits hp (lasting_sync C) (fun d hinv hd => hheader d hinv hd.1 hd.2)

/-- The image is complete when its header has been written, and everything is on the medium then. -/
lemma keeps_copyRawImage (start : Nat) (image : RaucImage)
    (hsize : image.checksum.size.toInt = content.length)
    (hplain : PlainHeader content)
    (hbody : ∀ d pos bytes, FallbackInv p h Known d → B d.cache → start + headerSize ≤ pos →
      pos + bytes.length ≤ start + content.length →
      FallbackInv p h Known (d.write pos bytes) ∧ B (d.write pos bytes).cache)
    (hheader : ∀ d, FallbackInv p h Known d → B d.cache → d.medium = d.cache →
      Stored d.cache (start + (content.take headerSize).length)
        (content.drop (content.take headerSize).length) →
      FallbackInv p h Known (d.write start (content.take headerSize)) ∧
        ¬ClearHeader p (d.write start (content.take headerSize)).cache) :
    Keeps p h Known (fun d => B d.cache) (copyRawImage dev image content start headerSize)
      (fun _ d => (¬ClearHeader p d.cache ∧ Stored d.cache start content) ∧
        d.medium = d.cache) := by
  have hlen := List.length_pos_iff.mpr hplain.ne_nil
  have htake : content.take headerSize ≠ [] := by
    rw [Ne, List.take_eq_nil_iff, not_or]
    exact ⟨by decide, hplain.ne_nil⟩
  unfold copyRawImage
  rw [if_neg (by omega)]
  apply keeps_bind (keeps_idle hfits hp (fun _ _ hd => hd))
  intro _
  apply keeps_bind (keeps_readHeader hfits hp dev content)
  intro header
  apply keeps_fact
  rintro rfl
  apply keeps_bind (keeps_mapError (keeps_copyBody hfits hp dev (by omega) hbody) _)
  intro _
  have hread : (if image.checksum.size.toInt = 0 then (content.take headerSize).length
      else content.length) =
      content.length := if_neg (by omega)
  rw [hread, if_neg (by omega)]
  have hcomplete : ∀ d, FallbackInv p h Known d → (B d.cache ∧
      Stored d.cache (start + (content.take headerSize).length)
        (content.drop (content.take headerSize).length)) →
      d.medium = d.cache → FallbackInv p h Known (d.write start (content.take headerSize)) ∧
        (¬ClearHeader p (d.write start (content.take headerSize)).cache ∧
          Stored (d.write start (content.take headerSize)).cache start content) := by
    rintro d hinv ⟨hB, hstored⟩ hsync
    obtain ⟨hnew, hnot⟩ := hheader d hinv hB hsync hstored
    exact ⟨hnew, hnot, stored_with_header hstored⟩
  apply keeps_bind (keeps_writeHeader hfits hp (C := fun v => B v ∧
    Stored v (start + (content.take headerSize).length)
      (content.drop (content.take headerSize).length))
    (E := fun v => ¬ClearHeader p v ∧ Stored v start content) htake hcomplete)
  intro _
  apply keeps_bind (keeps_idle hfits hp (fun _ _ hd => hd))
  intro _
  exact keeps_fsync hfits hp (C := fun v => ¬ClearHeader p v ∧ Stored v start content)

variable (image : RaucImage) (hsize : image.checksum.size.toInt = content.length)
  (hplain : PlainHeader content)
  (hknown : Known content) (haligned : h % headerSize = 0)

include hsize hplain hknown haligned

omit hp hsize in
lemma headerSize_le_half : headerSize ≤ h := by
  have hlen := List.length_pos_iff.mpr hplain.ne_nil
  have hle := hfits content hknown
  unfold headerSize at *
  omega

/-- The second half is written while the first one can be relied on, and then it is the other way
round. -/
lemma keeps_updatePartition_fallback :
    Keeps p h Known (fun d => ¬ClearHeader p d.cache) (updatePartition dev image content ⟨p + h, h⟩)
      (fun _ d => ¬ClearHeader p d.cache ∧ Replaceable p h Known d) := by
  have hh := headerSize_le_half hfits hplain hknown haligned
  apply keeps_bind (keeps_clear_fallback hfits hp dev hh haligned)
  intro _
  apply keeps_fact
  intro hsmall
  apply keeps_bind (keeps_idle hfits hp (fun _ _ hd => hd))
  intro _
  have hplace : (p + h) % headerSize = 0 := by
    unfold headerSize at *
    omega
  apply keeps_bind (keeps_seekTo hfits hp hplace (fun _ _ hd => hd))
  intro pos
  apply keeps_fact
  intro hpos
  subst pos
  have hcopy := keeps_copyRawImage hfits hp dev (B := fun v => ¬ClearHeader p v) (p + h) image
    hsize hplain
    (fun d pos bytes hinv hc hpos _ => hinv.write_fallback hfits hh hc bytes (by omega))
    (fun d hinv hc _ _ => hinv.write_fallback hfits hh hc _ (le_refl _))
  apply keeps_bind hcopy
  intro _
  apply keeps_weaken (keeps_idle hfits hp (lasting_sync (fun v => ¬ClearHeader p v ∧
    Stored v (p + h) content)))
    (fun d _ hd => hd)
  rintro _ d ⟨⟨hnot, hstored⟩, hsync⟩
  refine ⟨hnot, ⟨content, hknown, hstored⟩, ?_, hsmall⟩
  intro i _
  rw [hsync]

/-- The first half is given up when the second one can be relied on, and its header is written
last. -/
lemma keeps_updatePartition_primary (hsmall : h < 2 ^ 32) :
    Keeps p h Known (Replaceable p h Known) (updatePartition dev image content ⟨p, h⟩)
      (fun _ d => ¬ClearHeader p d.cache) := by
  have hh := headerSize_le_half hfits hplain hknown haligned
  apply keeps_bind (keeps_clear_primary hfits hp dev hh haligned hsmall)
  intro _
  apply keeps_bind (keeps_idle hfits hp (fun _ _ hd => hd))
  intro _
  apply keeps_bind (keeps_seekTo hfits hp hp (fun _ _ hd => hd))
  intro pos
  apply keeps_fact
  intro hpos
  subst pos
  have hcopy := keeps_copyRawImage hfits hp dev (B := ClearHeader p) p image hsize hplain
    (fun d pos bytes hinv hc hpos hend => hinv.write_primary hfits hc bytes hpos
      (le_trans hend (Nat.add_le_add_left (hfits content hknown) p)))
    (fun d hinv hc hsync hstored => hinv.write_header hknown hplain hc hsync hstored)
  apply keeps_bind hcopy
  intro _
  apply keeps_weaken (keeps_idle hfits hp (lasting_sync (fun v => ¬ClearHeader p v ∧
    Stored v p content)))
    (fun d _ hd => hd)
  exact fun _ d hd => hd.1.1

end Programs

section Handler

variable {slot : RaucSlot} {Known : List UInt8 → Prop} {content : List UInt8}

lemma checkIfAreaIsClear_keeps {p h : Nat} (hfits : ∀ img, Known img → img.length ≤ h)
    (hp : p % headerSize = 0) :
    Keeps p h Known (fun _ => True) (checkIfAreaIsClear p headerSize)
      (fun clear d => clear = true ↔ ClearHeader p d.cache) := by
  apply keeps_bind (keeps_idle hfits hp (fun _ _ _ => trivial))
  intro _
  apply keeps_bind (keeps_seekTo hfits hp hp (fun _ _ _ => trivial))
  intro pos
  apply keeps_fact
  intro hpos
  subst pos
  apply Prog.triple_read_bind
  rintro st ⟨hinv, -, hflushes⟩
  apply Prog.triple_pure
  rintro st' rfl
  refine ⟨hinv, ?_, hflushes⟩
  simp [ClearHeader]

lemma keeps_fallbackHook {p h : Nat} {R : CachedDevice UInt8 → Prop}
    (hfits : ∀ img, Known img → img.length ≤ h)
    (hp : p % headerSize = 0) (hR : Lasting R) (hookName : Option String) (enabled : Bool) :
    Keeps p h Known R (fallbackHook hookName enabled) (fun _ => R) := by
  unfold fallbackHook
  split_ifs
  · exact keeps_idle hfits hp hR
  · exact keeps_pure (fun _ hd => hd)

lemma keeps_pair {p h : Nat} {R M : CachedDevice UInt8 → Prop}
    {f : BootSwitchPartition → DiskProg Unit}
    {first second : BootSwitchPartition} (hfirst : Keeps p h Known R (f first) (fun _ => M))
    (hsecond : Keeps p h Known M (f second) (fun _ _ => True)) :
    Keeps p h Known R (Prog.each f [first, second]) (fun _ _ => True) :=
  keeps_bind hfirst (fun _ => keeps_bind hsecond (fun _ => keeps_pure (fun _ hd => hd)))

/-- The half that is written first is the one that is not needed. -/
lemma keeps_partitions (dev : BlockDevice) (image : RaucImage)
    (hfits : ∀ img, Known img → img.length ≤ slot.regionSize / 2)
    (hsize : image.checksum.size.toInt = content.length)
    (hplain : PlainHeader content) (hknown : Known content)
    (hstart : slot.regionStart % headerSize = 0)
    (haligned : slot.regionSize / 2 % headerSize = 0) (primaryClear : Bool) :
    Keeps slot.regionStart (slot.regionSize / 2) Known
      (fun d => primaryClear = true ↔ ClearHeader slot.regionStart d.cache)
      (Prog.each (updatePartition dev image content) (partitionOrder slot primaryClear))
        (fun _ _ => True) := by
  have hfallback := keeps_updatePartition_fallback hfits hstart dev image hsize hplain
    hknown haligned
  by_cases hsmall : slot.regionSize / 2 < 2 ^ 32
  · have hprimary := keeps_updatePartition_primary hfits hstart dev image hsize hplain hknown
      haligned hsmall
    cases primaryClear with
    | true =>
      apply keeps_pair (keeps_weaken hprimary _ (fun _ _ hd => hd))
        (keeps_weaken hfallback (fun _ _ hd => hd) (fun _ _ _ => trivial))
      intro d hinv hclear
      obtain ⟨hcomplete, hagree⟩ := hinv.cacheFallback (hclear.mp rfl)
      exact ⟨hcomplete, hagree, hsmall⟩
    | false =>
      apply keeps_pair (keeps_weaken hfallback _ (fun _ _ hd => hd))
        (keeps_weaken hprimary (fun _ _ hd => hd.2) (fun _ _ _ => trivial))
      intro d _ hclear hc
      exact absurd (hclear.mpr hc) (by decide)
  · -- clearing a half of this size never succeeds
    have hnever : Keeps slot.regionStart (slot.regionSize / 2) Known
        (fun d => ¬ClearHeader slot.regionStart d.cache)
        (Prog.each (updatePartition dev image content) [fallbackPartition slot,
          primaryPartition slot]) (fun _ _ => True) := by
      apply keeps_pair hfallback
      rintro w ⟨-, ⟨-, hreplaceable⟩, -⟩
      exact absurd hreplaceable.small hsmall
    rintro w ⟨hinv, hclear, hflushes⟩
    have hnot := (hinv.large (Nat.le_of_not_lt hsmall)).1
    cases primaryClear with
    | true => exact absurd (hclear.mp rfl) hnot
    | false => exact hnever w ⟨hinv, hnot, hflushes⟩

/-- An attempt keeps the invariant, wherever it ends. -/
lemma imgToBootRawFallbackHandler_keeps (dev : BlockDevice) (image : RaucImage)
    (hookName : Option String)
    (hfits : ∀ img, Known img → img.length ≤ slot.regionSize / 2)
    (hsize : image.checksum.size.toInt = content.length)
    (hplain : PlainHeader content) (hknown : Known content)
    (hstart : slot.regionStart % headerSize = 0)
    (haligned : slot.regionSize / 2 % headerSize = 0) :
    Keeps slot.regionStart (slot.regionSize / 2) Known (fun _ => True)
      (imgToBootRawFallbackHandler dev image content slot hookName) (fun _ _ => True) := by
  unfold imgToBootRawFallbackHandler
  dsimp only
  rw [if_neg (not_not.mpr hstart), if_neg (not_not.mpr haligned)]
  split_ifs
  · exact keeps_fail _ _
  · apply keeps_bind (keeps_fallbackHook hfits hstart (fun _ _ _ => trivial) hookName _)
    intro _
    apply keeps_bind (keeps_mapError (checkIfAreaIsClear_keeps hfits hstart) _)
    intro primaryClear
    apply keeps_bind (keeps_partitions dev image hfits hsize hplain hknown hstart haligned
      primaryClear)
    intro _
    exact keeps_fallbackHook hfits hstart (fun _ _ _ => trivial) hookName _

end Handler

section Runs

variable {dev : BlockDevice} {slot : RaucSlot} {images : List (List UInt8)} {d : CachedDevice UInt8}

/-- At least one half is complete, and the first one has no header while it is not. -/
def FallbackSafe (slot : RaucSlot) (images : List (List UInt8)) (d : CachedDevice UInt8) : Prop :=
  (∃ img ∈ images, Stored d.medium slot.regionStart img ∨
      Stored d.medium (slot.regionStart + slot.regionSize / 2) img) ∧
    ((¬∃ img ∈ images, Stored d.medium slot.regionStart img) →
      ClearHeader slot.regionStart d.medium)

lemma FallbackInv.mono {p h : Nat} {Known Known' : List UInt8 → Prop}
    (hinv : FallbackInv p h Known d)
    (hmono : ∀ img, Known img → Known' img) : FallbackInv p h Known' d := by
  have hcomplete : ∀ {v : Nat → UInt8} {pos : Nat}, Complete Known v pos →
      Complete Known' v pos := by
    rintro v pos ⟨img, hknown, hstored⟩
    exact ⟨img, hmono img hknown, hstored⟩
  refine ⟨?_, ?_, fun hm => hcomplete (hinv.mediumPrimary hm), fun hm =>
    hcomplete (hinv.mediumFallback hm), hinv.large⟩
  · intro hc
    exact ⟨hcomplete (hinv.cachePrimary hc).1, (hinv.cachePrimary hc).2⟩
  · intro hc
    exact ⟨hcomplete (hinv.cacheFallback hc).1, (hinv.cacheFallback hc).2⟩

lemma FallbackInv.safe (hinv : FallbackInv slot.regionStart (slot.regionSize / 2) (· ∈ images) d) :
    FallbackSafe slot images d := by
  by_cases hclear : ClearHeader slot.regionStart d.medium
  · obtain ⟨img, himg, hstored⟩ := hinv.mediumFallback hclear
    exact ⟨⟨img, himg, .inr hstored⟩, fun _ => hclear⟩
  · obtain ⟨img, himg, hstored⟩ := hinv.mediumPrimary hclear
    exact ⟨⟨img, himg, .inl hstored⟩, fun hnone => absurd ⟨img, himg, hstored⟩ hnone⟩

lemma FallbackRun.fits {Allowed : CachedDevice UInt8 → (Nat → Bool) → Prop}
    (hrun : FallbackRun dev slot Allowed images d) :
    ∀ img ∈ images, img.length ≤ slot.regionSize / 2 := by
  induction hrun with
  | start _ _ _ hfits => simpa using hfits
  | attempted _ _ _ _ _ hfits _ _ _ _ ih => simpa using ⟨hfits, ih⟩
  | settled _ _ _ ih => exact ih
  | crashed _ ih => exact ih

lemma FallbackRun.inv (hrun : FallbackRun dev slot (HeaderFirst slot.regionStart) images d)
    (hstart : slot.regionStart % headerSize = 0) (haligned : slot.regionSize / 2 % headerSize = 0) :
    FallbackInv slot.regionStart (slot.regionSize / 2) (· ∈ images) d := by
  induction hrun with
  | @start v primary fallback hprimary hfallback hplain hfits =>
    have hnot := hplain.1.not_clear hprimary
    exact ⟨fun _ => ⟨⟨primary, by simp, hprimary⟩, fun _ _ _ => rfl⟩, fun hc => absurd hc hnot,
      fun _ => ⟨primary, by simp, hprimary⟩, fun hc => absurd hc hnot, fun _ => ⟨hnot, hnot⟩⟩
  | attempted hrun image content hsize hplain hfits hookName flushes hflushes fates ih =>
    have hall : ∀ img ∈ content :: _, img.length ≤ slot.regionSize / 2 :=
      (hrun.attempted image content hsize hplain hfits
      hookName flushes hflushes fates).fits
    have hkeeps := imgToBootRawFallbackHandler_keeps dev image hookName hall hsize hplain
      (List.mem_cons_self ..) hstart haligned
    exact hkeeps.inv ⟨ih.mono (fun img himg => List.mem_cons_of_mem content himg),
      trivial, hflushes⟩
  | settled hrun chosen hchosen ih => exact ih.flush hrun.fits hstart hchosen
  | crashed _ ih => exact ih.crash

/-- A region that is not aligned is never written to. -/
lemma FallbackRun.untouched {Allowed : CachedDevice UInt8 → (Nat → Bool) → Prop}
    (hrun : FallbackRun dev slot Allowed images d)
    (hunaligned : ¬(slot.regionStart % headerSize = 0 ∧ slot.regionSize / 2 % headerSize = 0)) :
    d.medium = d.cache ∧ ∃ img ∈ images, Stored d.medium slot.regionStart img := by
  induction hrun with
  | start hprimary _ _ _ => exact ⟨rfl, _, by simp, hprimary⟩
  | @attempted images d _ image content _ _ _ hookName flushes _ fates ih =>
    have hsame :
        (imgToBootRawFallbackHandler dev image content slot hookName ⟨⟨d, flushes⟩,
        fates⟩).2.state.device = d := by
      unfold imgToBootRawFallbackHandler
      by_cases hstart : slot.regionStart % headerSize = 0
      · have hhalf : slot.regionSize / 2 % headerSize ≠ 0 := fun hhalf => hunaligned ⟨hstart, hhalf⟩
        rw [if_neg (not_not.mpr hstart), if_pos hhalf]
        rfl
      · rw [if_pos hstart]
        rfl
    obtain ⟨hsync, img, himg, hstored⟩ := ih
    rw [hsame]
    exact ⟨hsync, img, List.mem_cons_of_mem content himg, hstored⟩
  | @settled images d _ chosen _ ih =>
    have hsame : (d.flush 512 chosen).medium = d.medium := by
      funext b
      exact CachedDevice.flush_medium_of_agree (by rw [ih.1]) 512 chosen
    rw [hsame]
    exact ih
  | crashed _ ih => exact ⟨rfl, ih.2⟩

/-- A region of two halves with two sectors each, at the start of the device. -/
def smallRegion : RaucSlot :=
  { name := "bootloader.0", sclass := "bootloader", device := "/dev/mmcblk0",
    type := "boot-raw-fallback", regionSize := 2048 }

def smallDevice : BlockDevice := ⟨2048, 512⟩

def filledWith (b : UInt8) : List UInt8 := List.replicate 1024 b

def smallImage : RaucImage :=
  { slotclass := some "bootloader", checksum := { size := 1024 }, type := some "raw",
    filename := some "boot.img" }

lemma filledWith_plain {b : UInt8} (hb : isClearByte b = false) : PlainHeader (filledWith b) :=
  ⟨0, by decide, b, rfl, hb⟩

lemma length_filledWith (b : UInt8) : (filledWith b).length = 1024 := List.length_replicate

lemma filledWith_fits (b : UInt8) : (filledWith b).length ≤ smallRegion.regionSize / 2 := by
  rw [length_filledWith]
  exact le_refl 1024

lemma smallImage_size (b : UInt8) : smallImage.checksum.size.toInt = (filledWith b).length := by
  rw [length_filledWith]
  rfl

/-- The device after an attempt to write the image that ends in front of the given operation. In
front of that operation the chosen sectors get to the medium. -/
def interruptedAt (d : CachedDevice UInt8) (b : UInt8) (operation : Nat) (chosen : Nat → Bool) :
    CachedDevice UInt8 :=
  (imgToBootRawFallbackHandler smallDevice smallImage (filledWith b) smallRegion none
    ⟨⟨d, fun n _ sector => n == operation && chosen sector⟩, fun n => if n = operation then .stops
      else .succeeds⟩).2.state.device

lemma FallbackRun.interrupted {Allowed : CachedDevice UInt8 → (Nat → Bool) → Prop}
    (hrun : FallbackRun smallDevice smallRegion Allowed images d) {b : UInt8}
    (hb : isClearByte b = false)
    (operation : Nat) (chosen : Nat → Bool)
    (hallowed : ∀ (n : Nat) (d : CachedDevice UInt8),
      Allowed d (fun sector => n == operation && chosen sector)) :
    FallbackRun smallDevice smallRegion Allowed (filledWith b :: images)
      (interruptedAt d b operation chosen) :=
  hrun.attempted smallImage (filledWith b) (smallImage_size b) (filledWith_plain hb)
    (filledWith_fits b) none _
    hallowed _

end Runs

end RaucUpdate
