import RaucUpdate.Proofs.BootRawFallback

/-!
# Images with their header last

Up to the first `fsync` only the part behind the header is written, and the header is written when
that part is on the medium. The run may stop at every operation, and sectors may reach the medium at
any time.
-/

namespace RaucUpdate

open Library Prog

section Points

/-- The first bytes at a position are those from before, for reads and after a crash. -/
def HeaderKept (old : CachedDevice UInt8) (start n : Nat) (d : CachedDevice UInt8) : Prop :=
  ∀ k < n, d.cache (start + k) = old.cache (start + k) ∧
    (d.medium (start + k) = old.medium (start + k) ∨ d.medium (start + k) = old.cache (start + k))

/-- The header is the old one, or everything behind it has reached the medium. -/
def HeaderLast (old : CachedDevice UInt8) (start n : Nat) (content : List UInt8)
    (d : CachedDevice UInt8) : Prop :=
  HeaderKept old start n d ∨ Stored d.medium (start + n) (content.drop n)

variable {old d : CachedDevice UInt8} {start n : Nat}

lemma headerKept_refl (old : CachedDevice UInt8) (start n : Nat) : HeaderKept old start n old :=
  fun _ _ => ⟨rfl, .inl rfl⟩

lemma HeaderKept.flush (h : HeaderKept old start n d) (sector : Nat) (chosen : Nat → Bool) :
    HeaderKept old start n (d.flush sector chosen) := by
  intro k hk
  obtain ⟨hcache, hmedium⟩ := h k hk
  refine ⟨hcache, ?_⟩
  rw [CachedDevice.flush_medium]
  split_ifs
  · exact .inr hcache
  · exact hmedium

lemma HeaderKept.write (h : HeaderKept old start n d) {pos : Nat} (hpos : start + n ≤ pos)
    (bytes : List UInt8) :
    HeaderKept old start n (d.write pos bytes) := by
  intro k hk
  rw [CachedDevice.write_cache, CachedDevice.write_medium, writeAt_outside (by omega)]
  exact h k hk

lemma HeaderKept.sync (h : HeaderKept old start n d) : HeaderKept old start n d.sync := by
  intro k hk
  exact ⟨(h k hk).1, .inr (h k hk).1⟩

lemma stored_flush {pos sector : Nat} {bytes : List UInt8} {chosen : Nat → Bool}
    (hcache : Stored d.cache pos bytes)
    (hmedium : Stored d.medium pos bytes) : Stored (d.flush sector chosen).medium pos bytes := by
  intro k x hx
  rw [CachedDevice.flush_medium]
  split_ifs
  · exact hcache k x hx
  · exact hmedium k x hx

end Points

section Programs

/-- A program from one assertion about the device to another, with a condition at each point where
it may end. -/
def Steps {α : Type} (S R : CachedDevice UInt8 → Prop) (p : DiskProg α)
    (R' : α → CachedDevice UInt8 → Prop) : Prop :=
  Triple (fun st => R st.device) p (fun a st => R' a st.device) (fun _ st => S st.device)

variable {α β : Type} {S R R' : CachedDevice UInt8 → Prop} {Q : α → CachedDevice UInt8 → Prop}

lemma steps_diskStep {effect : CachedDevice UInt8 → CachedDevice UInt8} {report : Failure → GError}
    (hlasting : Lasting R)
    (hS : ∀ d, R d → S d) (heffect : ∀ d, R d → R' (effect d)) :
      Steps S R (diskStep effect report) (fun _ => R') := by
  unfold diskStep
  refine triple_bind (Q := fun _ st => R st.device) (triple_modify ?_) ?_
  · intro st hst
    exact hlasting _ _ hst
  · intro _
    exact triple_external (fun st hst => heffect _ hst) (fun st hst _ => hS _ hst)
      (fun st hst => hS _ hst)

lemma steps_idle {report : Failure → GError} (hlasting : Lasting R) (hS : ∀ d, R d → S d) :
    Steps S R (diskStep id report) (fun _ => R) :=
  steps_diskStep hlasting hS (fun _ hd => hd)

lemma steps_bind {p : DiskProg α} {f : α → DiskProg β} {Q' : β → CachedDevice UInt8 → Prop}
    (hp : Steps S R p Q)
    (hf : ∀ a, Steps S (Q a) (f a) Q') : Steps S R (p >>= f) Q' :=
  triple_bind hp hf

lemma steps_pure {a : α} (h : ∀ d, R d → Q a d) : Steps S R (Prog.pure a : DiskProg α) Q :=
  triple_pure (fun _ hst => h _ hst)

lemma steps_exit {x : Exit GError} (hS : ∀ d, R d → S d) : Steps S R (exit x : DiskProg α) Q :=
  triple_exit (fun _ hst => hS _ hst)

lemma steps_mapError {f : GError → GError} {p : DiskProg α} (hp : Steps S R p Q) :
    Steps S R (mapError f p) Q :=
  triple_mapError hp (fun _ _ h => h)

lemma steps_fact {C : Prop} {p : DiskProg α} (hp : C → Steps S R p Q) :
    Steps S (fun d => C ∧ R d) p Q := 
  fun w hw => hp hw.1 w hw.2

lemma steps_weaken {p : DiskProg α} {Q' : α → CachedDevice UInt8 → Prop} (hp : Steps S R p Q)
    (hQ : ∀ a d, Q a d → Q' a d) : Steps S R p Q' :=
  triple_consequence hp (fun _ h => h) (fun a _ h => hQ a _ h) (fun _ _ h => h)

end Programs

section Copy

variable {old : CachedDevice UInt8} {start n : Nat} {content : List UInt8} {dev : BlockDevice}

/-- The header is kept, and some bytes stand behind a position. -/
def BodyAt (old : CachedDevice UInt8) (start n pos : Nat) (done : List UInt8)
    (d : CachedDevice UInt8) : Prop :=
  HeaderKept old start n d ∧ d.cache = writeAt old.cache pos done

lemma lasting_bodyAt (old : CachedDevice UInt8) (start n pos : Nat) (done : List UInt8) :
    Lasting (BodyAt old start n pos done) := fun _ chosen hd => ⟨hd.1.flush 512 chosen, hd.2⟩

lemma BodyAt.safe {pos : Nat} {done : List UInt8} {d : CachedDevice UInt8}
    (h : BodyAt old start n pos done d) :
    HeaderLast old start n content d := .inl h.1

lemma steps_writePieces {pos : Nat} (parts : List (List UInt8)) (done : List UInt8)
    (hpos : parts = [] ∨ start + n ≤ pos) :
    Steps (HeaderLast old start n content) (BodyAt old start n pos done)
      (writePieces dev parts (pos + done.length))
      (fun _ => BodyAt old start n pos (done ++ parts.flatten)) := by
  induction parts generalizing done with
  | nil =>
    apply steps_pure
    intro d hd
    rwa [List.flatten_nil, List.append_nil]
  | cons piece rest ih =>
    have hbehind : start + n ≤ pos := hpos.resolve_left (by simp)
    unfold writePieces
    split_ifs
    · exact steps_exit (fun d hd => hd.safe)
    · have hstep : Steps (HeaderLast old start n content) (BodyAt old start n pos done)
          (diskStep (fun d => d.write (pos + done.length) piece)
            (updateFailed "Error writing to file descriptor: "))
          (fun _ => BodyAt old start n pos (done ++ piece)) := by
        apply steps_diskStep (lasting_bodyAt old start n pos done) (fun d hd => hd.safe)
        intro d hd
        refine ⟨hd.1.write (by omega) piece, ?_⟩
        rw [CachedDevice.write_cache, hd.2, writeAt_append]
      apply steps_bind hstep
      intro _
      have hrest := ih (done ++ piece) (.inr hbehind)
      rwa [List.length_append, List.append_assoc, ← Nat.add_assoc] at hrest

lemma steps_readHeader (lenHeaderLast : Nat) :
    Steps (HeaderLast old start n content) (BodyAt old start n start [])
      (readHeader dev content lenHeaderLast)
      (fun header d => header = content.take lenHeaderLast ∧
        BodyAt old start n (start + header.length) [] d) := by
  have hidle := fun report => @steps_idle (HeaderLast old start n content)
    (BodyAt old start n start []) report
    (lasting_bodyAt old start n start []) (fun d hd => hd.safe)
  have hnil : ∀ (pos : Nat) (d : CachedDevice UInt8), BodyAt old start n start [] d →
      BodyAt old start n pos [] d := by
    rintro pos d ⟨hkept, hcache⟩
    rw [writeAt_nil] at hcache
    exact ⟨hkept, by rw [writeAt_nil, hcache]⟩
  unfold readHeader
  split_ifs with hzero hsector
  · apply steps_pure
    intro d hd
    exact ⟨by rw [hzero, List.take_zero], hnil _ d hd⟩
  · exact steps_exit (fun d hd => hd.safe)
  · apply steps_bind (hidle _)
    intro _
    apply steps_bind (hidle _)
    intro _
    exact steps_pure (fun d hd => ⟨rfl, hnil _ d hd⟩)

lemma steps_copyStream {pos : Nat} {rest : List UInt8} (hpos : rest = [] ∨ start + n ≤ pos)
    (size : Int) :
    Steps (HeaderLast old start n content) (BodyAt old start n pos [])
      (rCopyStreamWithProgress dev rest size pos)
      (fun _ => BodyAt old start n pos (if size = 0 then [] else rest)) := by
  unfold rCopyStreamWithProgress
  split_ifs with hsize
  · exact steps_pure (fun d hd => hd)
  · have hempty : pieces 8192 rest.length rest = [] ∨ start + n ≤ pos := by
      apply hpos.imp_left
      rintro rfl
      rfl
    have hwrite := @steps_writePieces old start n content dev pos (pieces 8192 rest.length rest) []
      hempty
    rwa [List.length_nil, Nat.add_zero, List.nil_append, flatten_pieces (by omega) _ _ (le_refl _)]
      at hwrite

/-- The image is written, and if its header is a new one then the rest is on the medium. -/
def ImageAt (old : CachedDevice UInt8) (start n : Nat) (content header body : List UInt8)
    (d : CachedDevice UInt8) : Prop :=
  d.cache = writeAt old.cache start (header ++ body) ∧ (HeaderKept old start n d ∨
    (Stored d.cache (start + n) (content.drop n) ∧ Stored d.medium (start + n) (content.drop n)))

lemma lasting_imageAt (old : CachedDevice UInt8) (start n : Nat)
    (content header body : List UInt8) :
    Lasting (ImageAt old start n content header body) := by
  rintro d chosen ⟨hcache, hstate⟩
  refine ⟨hcache, hstate.imp (fun hkept => hkept.flush 512 chosen) ?_⟩
  rintro ⟨hstored, hdurable⟩
  exact ⟨hstored, stored_flush hstored hdurable⟩

lemma ImageAt.safe {header body : List UInt8} {d : CachedDevice UInt8}
    (h : ImageAt old start n content header body d) :
    HeaderLast old start n content d := h.2.imp_right And.right

lemma ImageAt.sync {header body : List UInt8} {d : CachedDevice UInt8}
    (h : ImageAt old start n content header body d) :
    ImageAt old start n content header body d.sync :=
  ⟨h.1, h.2.imp HeaderKept.sync (fun hstored => ⟨hstored.1, hstored.1⟩)⟩

/-- Only a header that is not empty is written, and then it ends where the rest begins. -/
lemma steps_writeHeader {header body : List UInt8} (hheader : header ≠ [] → n = header.length ∧
    body = content.drop n) :
    Steps (HeaderLast old start n content) (BodyAt old start n (start + header.length) body)
      (writeHeader header start)
      (fun _ => ImageAt old start n content header body) := by
  unfold writeHeader
  split_ifs with hnil
  · apply steps_pure
    rintro d ⟨hkept, hcache⟩
    rw [hnil, List.length_nil, Nat.add_zero] at hcache
    exact ⟨by rw [hcache, hnil, List.nil_append], .inl hkept⟩
  · obtain ⟨hn, hbody⟩ := hheader hnil
    let synced : CachedDevice UInt8 → Prop :=
      fun d => BodyAt old start n (start + header.length) body d ∧ d.medium = d.cache
    have hlasting : Lasting synced := by
      rintro d chosen ⟨hd, hsync⟩
      refine ⟨lasting_bodyAt old start n _ body d chosen hd, ?_⟩
      funext b
      rw [CachedDevice.flush_medium_of_agree (by rw [hsync]), hsync]
      rfl
    have hsafe : ∀ d, synced d → HeaderLast old start n content d := fun d hd => hd.1.safe
    apply steps_bind (Q := fun _ => synced)
    · apply steps_diskStep (lasting_bodyAt old start n _ body) (fun d hd => hd.safe)
      intro d hd
      exact ⟨⟨hd.1.sync, hd.2⟩, rfl⟩
    intro _
    apply steps_bind (steps_idle hlasting hsafe)
    intro _
    apply steps_diskStep hlasting hsafe
    rintro d ⟨⟨-, hcache⟩, hsync⟩
    have hstored : Stored d.cache (start + n) (content.drop n) := by
      rw [hcache, ← hbody, hn]
      exact stored_writeAt _ _ _
    refine ⟨?_, .inr ⟨?_, ?_⟩⟩
    · rw [CachedDevice.write_cache, hcache, writeAt_append_last]
    · rw [CachedDevice.write_cache]
      exact hstored.writeAt (.inl (by omega))
    · rw [CachedDevice.write_medium, hsync]
      exact hstored

/-- The declared size of an image, as far as it is one. -/
def RaucImage.declared (image : RaucImage) : Nat := image.checksum.size.toInt.toNat

/-- As many bytes of the file as are declared stand at the position, and nothing else has
changed. -/
def CopiedAt (old : CachedDevice UInt8) (start : Nat) (image : RaucImage) (content : List UInt8)
    (d : CachedDevice UInt8) :
    Prop :=
  image.declared ≤ content.length ∧ d.cache = writeAt old.cache start (content.take image.declared)

lemma steps_copyRawImage (old : CachedDevice UInt8) (dev : BlockDevice) (image : RaucImage)
    (content : List UInt8)
    (start lenHeaderLast : Nat) :
    Steps (HeaderLast old start (min lenHeaderLast image.declared) content) (· = old)
      (copyRawImage dev image content start lenHeaderLast) (fun _ d =>
        CopiedAt old start image content d ∧
        HeaderLast old start (min lenHeaderLast image.declared) content d) := by
  generalize hn : min lenHeaderLast image.declared = n
  have hstart : ∀ d, d = old → BodyAt old start n start [] d := by
    rintro d rfl
    exact ⟨headerKept_refl d start n, (writeAt_nil _ _).symm⟩
  have hbody : Steps (HeaderLast old start n content) (BodyAt old start n start [])
      (copyRawImage dev image content start lenHeaderLast) (fun _ d =>
        CopiedAt old start image content d ∧
        HeaderLast old start n content d) := by
    unfold copyRawImage
    by_cases hnegative : image.checksum.size.toInt < 0
    · rw [if_pos hnegative]
      exact steps_exit (fun d hd => hd.safe)
    rw [if_neg hnegative]
    apply steps_bind (steps_idle (lasting_bodyAt old start n start []) (fun d hd => hd.safe))
    intro _
    apply steps_bind (steps_readHeader lenHeaderLast)
    intro header
    apply steps_fact
    intro hheader
    have hlength : header.length = min lenHeaderLast content.length := by
      rw [hheader, List.length_take]
    have hparts : header ++ content.drop header.length = content := by
      rw [hlength, hheader]
      rcases Nat.le_total lenHeaderLast content.length with hle | hle
      · rw [Nat.min_eq_left hle, List.take_append_drop]
      · rw [Nat.min_eq_right hle, List.drop_length, List.append_nil, List.take_of_length_le hle]
    have hbehind : content.drop header.length = [] ∨ start + n ≤ start + header.length := by
      rw [List.drop_eq_nil_iff]
      omega
    apply steps_bind (steps_mapError (steps_copyStream hbehind _))
    intro _
    dsimp only
    generalize hbodyeq :
      (if image.checksum.size.toInt = 0 then [] else content.drop header.length) = body
    by_cases hshort :
        ((if image.checksum.size.toInt = 0 then header.length else content.length : Nat) : Int) ≠
        image.checksum.size.toInt
    · rw [if_pos hshort]
      exact steps_exit (fun d hd => hd.safe)
    rw [if_neg hshort]
    rw [not_not] at hshort
    -- A declared size of 0 is only accepted without a header, and then nothing is written.
    have hfacts : (header ≠ [] → n = header.length ∧ body = content.drop n) ∧ image.declared ≤
        content.length ∧
        header ++ body = content.take image.declared := by
      have hdeclared : image.declared = image.checksum.size.toInt.toNat := rfl
      by_cases hzero : image.checksum.size.toInt = 0
      · rw [if_pos hzero] at hshort hbodyeq
        have hnil : header = [] := List.eq_nil_of_length_eq_zero (by omega)
        refine ⟨fun hne => absurd hnil hne, by omega, ?_⟩
        rw [hnil, ← hbodyeq, show image.declared = 0 by omega]
        rfl
      · rw [if_neg hzero] at hshort hbodyeq
        have hall : image.declared = content.length := by omega
        refine ⟨fun _ => ⟨by omega, ?_⟩, by omega, ?_⟩
        · rw [← hbodyeq]
          congr 1
          omega
        · rw [hall, List.take_length, ← hbodyeq, hparts]
    obtain ⟨hlast, hfits, htaken⟩ := hfacts
    apply steps_bind (steps_writeHeader hlast)
    intro _
    apply steps_bind (steps_idle (lasting_imageAt old start n content header body)
      (fun d hd => hd.safe))
    intro _
    apply steps_weaken (Q := fun _ => ImageAt old start n content header body)
    · exact steps_diskStep (lasting_imageAt old start n content header body) (fun d hd => hd.safe)
        (fun d hd => hd.sync)
    · intro _ d hd
      exact ⟨⟨hfits, by rw [hd.1, htaken]⟩, hd.safe⟩
  intro w hw
  exact hbody w (hstart _ hw)

/-- A copy that succeeds leaves the declared bytes of the file and changes nothing else. Wherever it
ends, with success, an error or a stop, the header is still the old one, unless everything behind it
has reached the medium. -/
theorem copyRawImage_headerLast (dev : BlockDevice) (image : RaucImage) (content : List UInt8)
    (start lenHeaderLast : Nat)
    (w : World DiskState) :
    ((copyRawImage dev image content start lenHeaderLast w).1 = .value () →
      CopiedAt w.state.device start image content
        (copyRawImage dev image content start lenHeaderLast w).2.state.device) ∧
    HeaderLast w.state.device start (min lenHeaderLast image.declared) content
      (copyRawImage dev image content start lenHeaderLast w).2.state.device := by
  have hsteps := steps_copyRawImage w.state.device dev image content start lenHeaderLast
  cases hr : (copyRawImage dev image content start lenHeaderLast w).1 with
  | value a => exact ⟨fun _ => (hsteps.value rfl hr).1, (hsteps.value rfl hr).2⟩
  | exit x => exact ⟨fun hvalue => by simp at hvalue, hsteps.exit rfl hr⟩

end Copy

end RaucUpdate
