import Mathlib.Data.List.Infix
import RaucUpdate.Model.Casync
import RaucUpdate.Model.InstallPlans
import RaucUpdate.Proofs.ManifestRoundTrip

/-!
# Image types after a conversion to casync

The list of patterns for image types is searched in order, so the type of an index depends on every
pattern in front of the right one. `Convertible` are the names for which the index again has the
type that belongs to the original: an archive has to be recognised as one, and a squashfs must not
end like another image.
-/

namespace RaucUpdate

open Library

section Patterns

/-- Neither `*` nor `?`. -/
def Literal (p : List Char) : Prop := ∀ c ∈ p, c ≠ '*' ∧ c ≠ '?'

instance (p : List Char) : Decidable (Literal p) :=
  List.decidableBAll (fun c => c ≠ '*' ∧ c ≠ '?') p

lemma patternMatch_star (q s : List Char) :
    patternMatch ('*' :: q) s = true ↔ ∃ t, t <:+ s ∧ patternMatch q t = true := by
  rw [patternMatch.eq_def]
  simp only [if_true, List.any_eq_true, List.mem_tails]

lemma patternMatch_literal {p : List Char} (hp : Literal p) (q s : List Char) :
    patternMatch (p ++ q) s = true ↔ ∃ t, s = p ++ t ∧ patternMatch q t = true := by
  induction p generalizing s with
  | nil => simp
  | cons c p ih =>
    obtain ⟨hstar, hmark⟩ := hp c List.mem_cons_self
    have hrest : Literal p := fun d hd => hp d (List.mem_cons_of_mem c hd)
    rw [List.cons_append, patternMatch.eq_def]
    simp only [hstar, if_false]
    cases s with
    | nil => simp
    | cons d s =>
      rw [Bool.and_eq_true, ih hrest]
      constructor
      · rintro ⟨hc, t, rfl, ht⟩
        have hcd : c = d := by simpa [hmark] using hc
        exact ⟨t, by rw [hcd]; rfl, ht⟩
      · rintro ⟨t, heq, ht⟩
        obtain ⟨rfl, rfl⟩ := List.cons.inj heq
        exact ⟨by simp, t, rfl, ht⟩

/-- `*` in front of a text. -/
lemma patternMatch_suffix {p : List Char} (hp : Literal p) (s : List Char) :
    patternMatch ('*' :: p) s = true ↔ p <:+ s := by
  rw [patternMatch_star]
  constructor
  · rintro ⟨t, hsuffix, ht⟩
    rw [← List.append_nil p, patternMatch_literal hp] at ht
    obtain ⟨u, rfl, hu⟩ := ht
    obtain rfl : u = [] := by simpa [patternMatch] using hu
    rwa [List.append_nil] at hsuffix
  · intro hsuffix
    refine ⟨p, hsuffix, ?_⟩
    rw [← List.append_nil p, patternMatch_literal hp]
    exact ⟨[], rfl, by simp [patternMatch]⟩

/-- `*` in front of a text and behind it, and another text at the end. -/
lemma patternMatch_within {p r : List Char} (hp : Literal p) (hr : Literal r) (s : List Char) :
    patternMatch ('*' :: (p ++ '*' :: r)) s = true ↔ ∃ a b, s = a ++ p ++ b ++ r := by
  rw [patternMatch_star]
  constructor
  · rintro ⟨t, ⟨a, rfl⟩, ht⟩
    rw [patternMatch_literal hp] at ht
    obtain ⟨u, rfl, hu⟩ := ht
    obtain ⟨b, rfl⟩ := (patternMatch_suffix hr u).mp hu
    exact ⟨a, b, by simp⟩
  · rintro ⟨a, b, rfl⟩
    refine ⟨p ++ (b ++ r), ⟨a, by simp⟩, (patternMatch_literal hp _ _).mpr ⟨b ++ r, rfl, ?_⟩⟩
    exact (patternMatch_suffix hr _).mpr ⟨b, rfl⟩

/-- Behind the same text the rest of two patterns decides. -/
lemma patternMatch_suffix_append {p r : List Char} (hp : Literal p) (hr : Literal r)
    (s : List Char) :
    patternMatch ('*' :: (p ++ r)) (s ++ r) = patternMatch ('*' :: p) s := by
  have hpr : Literal (p ++ r) := fun c hc => (List.mem_append.mp hc).elim (hp c) (hr c)
  rw [Bool.eq_iff_iff, patternMatch_suffix hpr, patternMatch_suffix hp]
  constructor
  · rintro ⟨a, ha⟩
    rw [← List.append_assoc] at ha
    exact ⟨a, List.append_cancel_right ha⟩
  · rintro ⟨a, rfl⟩
    exact ⟨a, by simp⟩

lemma patternMatch_within_append {p r : List Char} (hp : Literal p) (hr : Literal r)
    (s : List Char) :
    patternMatch ('*' :: (p ++ '*' :: r)) (s ++ r) = patternMatch ('*' :: (p ++ ['*'])) s := by
  rw [Bool.eq_iff_iff, patternMatch_within hp hr, patternMatch_within hp (by decide)]
  constructor
  · rintro ⟨a, b, h⟩
    exact ⟨a, b, by rw [List.append_cancel_right h, List.append_nil]⟩
  · rintro ⟨a, b, rfl⟩
    exact ⟨a, b, by simp⟩

/-- No text ends in two ways. -/
lemma patternMatch_suffix_exclusive {p q s : List Char} (hp : Literal p) (hq : Literal q)
    (hmatch : patternMatch ('*' :: p) s = true) (hpq : ¬p <:+ q) (hqp : ¬q <:+ p) :
    patternMatch ('*' :: q) s = false := by
  rw [patternMatch_suffix hp] at hmatch
  rw [Bool.eq_false_iff, Ne, patternMatch_suffix hq]
  intro hother
  rcases Nat.le_total p.length q.length with hle | hle
  · exact hpq (List.suffix_of_suffix_length_le hmatch hother hle)
  · exact hqp (List.suffix_of_suffix_length_le hother hmatch hle)

end Patterns

section Names

/-- The type of the index for an image. -/
def casyncType (type : String) : String :=
  if type = "tar" ∨ type = "catar" then "caidx" else type ++ "-caibx"

def IsCasyncType (type : String) : Prop :=
  type ∈ ["ext4-caibx", "vfat-caibx", "ubifs-caibx", "raw-caibx", "squashfs-caibx", "caidx"]

instance (type : String) : Decidable (IsCasyncType type) := inferInstanceAs (Decidable (_ ∈ _))

/-- A tar file is recognised as an archive, and no other image looks like a squashfs and a UBIFS at
the same time. -/
def Convertible (filename : String) : Prop :=
  imageIsArchive filename = true ∨ patternMatch "*.tgz".toList filename.toList = false ∧
    ¬(patternMatch "*.squashfs-*".toList filename.toList = true ∧
      patternMatch "*.ubifs".toList filename.toList = true)

instance (filename : String) : Decidable (Convertible filename) :=
  inferInstanceAs (Decidable (_ ∨ _))

variable {filename type : String}

/-- The search of the table in the order of its entries. -/
lemma deriveImageType_eq (filename : String) :
    deriveImageTypeFromFilenamePattern filename =
      if patternMatch "*.ext4.caibx".toList filename.toList then some "ext4-caibx"
      else if patternMatch "*.vfat.caibx".toList filename.toList then some "vfat-caibx"
      else if patternMatch "*.ubifs.caibx".toList filename.toList then some "ubifs-caibx"
      else if patternMatch "*.img.caibx".toList filename.toList then some "raw-caibx"
      else if patternMatch "*.squashfs.caibx".toList filename.toList then some "squashfs-caibx"
      else if patternMatch "*.squashfs-*.caibx".toList filename.toList then some "squashfs-caibx"
      else if patternMatch "*.catar".toList filename.toList then some "catar"
      else if patternMatch "*.caidx".toList filename.toList then some "caidx"
      else if patternMatch "*.tar*".toList filename.toList then some "tar"
      else if patternMatch "*.tgz".toList filename.toList then some "tar"
      else if patternMatch "*.ext4".toList filename.toList then some "ext4"
      else if patternMatch "*.vfat".toList filename.toList then some "vfat"
      else if patternMatch "*.img".toList filename.toList then some "raw"
      else if patternMatch "*.squashfs-*".toList filename.toList then some "squashfs"
      else if patternMatch "*.squashfs".toList filename.toList then some "squashfs"
      else if patternMatch "*.ubifs".toList filename.toList then some "ubifs"
      else none := by
  have hcons : ∀ (p t : String) (rest : List (String × String)),
      (((p, t) :: rest).find? (fun e => patternMatch e.1.toList filename.toList)).map Prod.snd =
        if patternMatch p.toList filename.toList then some t
        else (rest.find? (fun e => patternMatch e.1.toList filename.toList)).map Prod.snd := by
    intro p t rest
    cases hp : patternMatch p.toList filename.toList with
    | true => simp [hp]
    | false => simp [hp]
  unfold deriveImageTypeFromFilenamePattern extTypeMap
  simp only [hcons, List.find?_nil, Option.map_none]

/-- What follows the common end of a blob index decides. -/
lemma patternMatch_blob {p q : String} (hp : Literal p.toList) (hq : q = "*" ++ p ++ ".caibx")
    (filename : String) :
    patternMatch q.toList (filename ++ ".caibx").toList =
      patternMatch ("*" ++ p).toList filename.toList := by
  have hstar : "*".toList = ['*'] := rfl
  rw [hq]
  simp only [String.toList_append, hstar, List.cons_append, List.nil_append]
  exact patternMatch_suffix_append hp (by decide) filename.toList

lemma patternMatch_squashfs_blob (filename : String) :
    patternMatch "*.squashfs-*.caibx".toList (filename ++ ".caibx").toList =
      patternMatch "*.squashfs-*".toList filename.toList := by
  have hpattern : "*.squashfs-*.caibx".toList =
    '*' :: (".squashfs-".toList ++ '*' :: ".caibx".toList) := by decide
  have hname : "*.squashfs-*".toList = '*' :: (".squashfs-".toList ++ ['*']) := by decide
  rw [hpattern, hname, String.toList_append]
  exact patternMatch_within_append (by decide) (by decide) filename.toList

/-- A name that ends in one of two texts does not end in the other. -/
lemma patternMatch_exclusive {p q : String} (hp : Literal p.toList) (hq : Literal q.toList)
    (hpq : ¬p.toList <:+ q.toList ∧ ¬q.toList <:+ p.toList)
    (hmatch : patternMatch ("*" ++ p).toList filename.toList = true) :
    patternMatch ("*" ++ q).toList filename.toList = false := by
  have hstar : "*".toList = ['*'] := rfl
  simp only [String.toList_append, hstar, List.cons_append, List.nil_append] at hmatch ⊢
  exact patternMatch_suffix_exclusive hp hq hmatch hpq.1 hpq.2

lemma patternMatch_end (filename : String) {p : String} (hp : Literal p.toList) :
    patternMatch ("*" ++ p).toList (filename ++ p).toList = true := by
  have hstar : "*".toList = ['*'] := rfl
  simp only [String.toList_append, hstar, List.cons_append, List.nil_append]
  exact (patternMatch_suffix hp _).mpr ⟨filename.toList, rfl⟩

/-- Only the index of a directory tree has the type of one. -/
lemma derive_blob_ne_caidx (filename : String) :
    deriveImageTypeFromFilenamePattern (filename ++ ".caibx") ≠ some "caidx" := by
  have hentry : ∀ e ∈ extTypeMap, e.2 = "caidx" → e.1 = "*" ++ ".caidx" := by decide
  intro h
  obtain ⟨e, hfind, htype⟩ := Option.map_eq_some_iff.mp h
  have hmatch := List.find?_some hfind
  rw [hentry e (List.mem_of_find?_eq_some hfind) htype] at hmatch
  have hend := patternMatch_end filename (p := ".caibx") (by decide)
  rw [patternMatch_exclusive (q := ".caidx") (by decide) (by decide) (by decide) hend] at hmatch
  exact absurd hmatch (by decide)

/-- The index of a blob: the entries for such indices look at the name of the file. -/
lemma derive_blob (filename : String) :
    ∃ other, deriveImageTypeFromFilenamePattern (filename ++ ".caibx") =
      if patternMatch "*.ext4".toList filename.toList then some "ext4-caibx"
      else if patternMatch "*.vfat".toList filename.toList then some "vfat-caibx"
      else if patternMatch "*.ubifs".toList filename.toList then some "ubifs-caibx"
      else if patternMatch "*.img".toList filename.toList then some "raw-caibx"
      else if patternMatch "*.squashfs".toList filename.toList then some "squashfs-caibx"
      else if patternMatch "*.squashfs-*".toList filename.toList then some "squashfs-caibx"
      else other := by
  apply Exists.intro
  rw [deriveImageType_eq, patternMatch_blob (p := ".ext4") (by decide) (by decide),
    patternMatch_blob (p := ".vfat") (by decide) (by decide),
      patternMatch_blob (p := ".ubifs") (by decide) (by decide),
    patternMatch_blob (p := ".img") (by decide) (by decide),
      patternMatch_blob (p := ".squashfs") (by decide) (by decide),
    patternMatch_squashfs_blob]
  rfl

lemma derive_tree (filename : String) : deriveImageTypeFromFilenamePattern (filename ++ ".caidx") =
    some "caidx" := by
  have hend := patternMatch_end filename (p := ".caidx") (by decide)
  have hother : ∀ q : String, Literal q.toList → ¬".caidx".toList <:+ q.toList ∧
      ¬q.toList <:+ ".caidx".toList →
      patternMatch ("*" ++ q).toList (filename ++ ".caidx").toList = false :=
    fun q hq hdiffer => patternMatch_exclusive (by decide) hq hdiffer hend
  have hext4 : patternMatch "*.ext4.caibx".toList (filename ++ ".caidx").toList = false :=
    hother ".ext4.caibx" (by decide) (by decide)
  have hvfat : patternMatch "*.vfat.caibx".toList (filename ++ ".caidx").toList = false :=
    hother ".vfat.caibx" (by decide) (by decide)
  have hubifs : patternMatch "*.ubifs.caibx".toList (filename ++ ".caidx").toList = false :=
    hother ".ubifs.caibx" (by decide) (by decide)
  have himg : patternMatch "*.img.caibx".toList (filename ++ ".caidx").toList = false :=
    hother ".img.caibx" (by decide) (by decide)
  have hsquashfs : patternMatch "*.squashfs.caibx".toList (filename ++ ".caidx").toList = false :=
    hother ".squashfs.caibx" (by decide) (by decide)
  have hcatar : patternMatch "*.catar".toList (filename ++ ".caidx").toList = false :=
    hother ".catar" (by decide) (by decide)
  have hwithin : patternMatch "*.squashfs-*.caibx".toList (filename ++ ".caidx").toList =
      false := by
    have hpattern : "*.squashfs-*.caibx".toList =
      '*' :: (".squashfs-".toList ++ '*' :: ".caibx".toList) := by decide
    rw [hpattern, Bool.eq_false_iff, Ne, patternMatch_within (by decide) (by decide)]
    rintro ⟨a, b, hname⟩
    have hblob : patternMatch ("*" ++ ".caibx").toList (filename ++ ".caidx").toList = true :=
      (patternMatch_suffix (p := ".caibx".toList) (by decide) _).mpr ⟨a ++ ".squashfs-".toList ++
        b, hname.symm⟩
    rw [hother ".caibx" (by decide) (by decide)] at hblob
    exact absurd hblob (by decide)
  rw [deriveImageType_eq, hext4, hvfat, hubifs, himg, hsquashfs, hwithin, hcatar]
  simp only [Bool.false_eq_true, if_false]
  exact if_pos hend

/-- One entry of the table: it decides or the search goes on. -/
lemma entry_cases {found' : Bool} {entry type : String} {rest : Option String}
    (h : (if found' then some entry else rest) = some type) :
    found' = true ∧ type = entry ∨ found' = false ∧ rest = some type := by
  cases found' with
  | true => exact Or.inl ⟨rfl, (Option.some.inj h).symm⟩
  | false => exact Or.inr ⟨rfl, h⟩

lemma entry_skip {found' : Bool} {entry type : String} {rest : Option String}
    (hentry : IsCasyncType entry)
    (hcasync : ¬IsCasyncType type) (h : (if found' then some entry else rest) = some type) :
      rest = some type := by
  rcases entry_cases h with ⟨-, rfl⟩ | ⟨-, hrest⟩
  · exact absurd hentry hcasync
  · exact hrest

/-- The entries for images that are not from casync. -/
lemma derive_plain (hderive : deriveImageTypeFromFilenamePattern filename = some type)
    (hcasync : ¬IsCasyncType type) :
    (if patternMatch "*.catar".toList filename.toList then some "catar"
      else if patternMatch "*.tar*".toList filename.toList then some "tar"
      else if patternMatch "*.tgz".toList filename.toList then some "tar"
      else if patternMatch "*.ext4".toList filename.toList then some "ext4"
      else if patternMatch "*.vfat".toList filename.toList then some "vfat"
      else if patternMatch "*.img".toList filename.toList then some "raw"
      else if patternMatch "*.squashfs-*".toList filename.toList then some "squashfs"
      else if patternMatch "*.squashfs".toList filename.toList then some "squashfs"
      else if patternMatch "*.ubifs".toList filename.toList then some "ubifs"
      else none) = some type := by
  rw [deriveImageType_eq] at hderive
  have hblobs :=
    entry_skip (by decide) hcasync (entry_skip (by decide) hcasync (entry_skip (by decide) hcasync
    (entry_skip (by decide) hcasync (entry_skip (by decide) hcasync
      (entry_skip (by decide) hcasync hderive)))))
  rcases entry_cases hblobs with ⟨hcatar, rfl⟩ | ⟨hcatar, hrest⟩
  · rw [hcatar, if_pos rfl]
  · rw [hcatar, if_neg (by decide)]
    exact entry_skip (by decide) hcasync hrest

/-- A file that is no archive: only the entries behind the one for tar files are left. -/
lemma derive_blob_iff (hplain : (if patternMatch "*.tgz".toList filename.toList then some "tar"
      else if patternMatch "*.ext4".toList filename.toList then some "ext4"
      else if patternMatch "*.vfat".toList filename.toList then some "vfat"
      else if patternMatch "*.img".toList filename.toList then some "raw"
      else if patternMatch "*.squashfs-*".toList filename.toList then some "squashfs"
      else if patternMatch "*.squashfs".toList filename.toList then some "squashfs"
      else if patternMatch "*.ubifs".toList filename.toList then some "ubifs"
      else none) = some type) :
    deriveImageTypeFromFilenamePattern (filename ++ ".caibx") = some (casyncType type) ↔
      patternMatch "*.tgz".toList filename.toList = false ∧
        ¬(patternMatch "*.squashfs-*".toList filename.toList = true ∧
          patternMatch "*.ubifs".toList filename.toList = true) := by
  obtain ⟨other, hblob⟩ := derive_blob filename
  have hnotUbifs : ∀ q : String, Literal q.toList → ¬q.toList <:+ ".ubifs".toList ∧
      ¬".ubifs".toList <:+ q.toList →
      patternMatch ("*" ++ q).toList filename.toList = true →
        patternMatch "*.ubifs".toList filename.toList = false :=
    fun q hq hdiffer hmatch => patternMatch_exclusive (q := ".ubifs") hq (by decide) hdiffer hmatch
  rcases entry_cases hplain with ⟨htgz, rfl⟩ | ⟨htgz, hplain⟩
  · have htree : casyncType "tar" = "caidx" := by decide
    rw [htree, htgz]
    simp [derive_blob_ne_caidx]
  rcases entry_cases hplain with ⟨hext4, rfl⟩ | ⟨hext4, hplain⟩
  · have hubifs := hnotUbifs ".ext4" (by decide) (by decide) hext4
    rw [hblob, if_pos hext4, htgz, hubifs]
    simp [casyncType]
  rw [hext4, if_neg (by decide)] at hblob
  rcases entry_cases hplain with ⟨hvfat, rfl⟩ | ⟨hvfat, hplain⟩
  · have hubifs := hnotUbifs ".vfat" (by decide) (by decide) hvfat
    rw [hblob, if_pos hvfat, htgz, hubifs]
    simp [casyncType]
  rw [hvfat, if_neg (by decide)] at hblob
  rcases entry_cases hplain with ⟨himg, rfl⟩ | ⟨himg, hplain⟩
  · have hubifs := hnotUbifs ".img" (by decide) (by decide) himg
    rw [hblob, hubifs, if_neg (by decide), if_pos himg, htgz]
    simp [casyncType]
  rw [himg] at hblob
  rcases entry_cases hplain with ⟨hsquash, rfl⟩ | ⟨hsquash, hplain⟩
  · -- a name like this may end like a UBIFS, whose entry stands further up among the indices
    rw [hblob, hsquash, htgz]
    cases patternMatch "*.ubifs".toList filename.toList with
    | true => simp [casyncType]
    | false =>
      cases patternMatch "*.squashfs".toList filename.toList with
      | true => simp [casyncType]
      | false => simp [casyncType]
  rcases entry_cases hplain with ⟨hsquashfs, rfl⟩ | ⟨hsquashfs, hplain⟩
  · have hubifs := hnotUbifs ".squashfs" (by decide) (by decide) hsquashfs
    rw [hblob, hubifs, hsquashfs, htgz]
    simp [casyncType]
  rcases entry_cases hplain with ⟨hubifs, rfl⟩ | ⟨-, hnone⟩
  · rw [hblob, hubifs, if_pos rfl, hsquash, htgz]
    simp [casyncType]
  · exact absurd hnone (by simp)

/-- Exactly for these names the index has the type that belongs to the original. -/
lemma derive_indexFilename_iff (hderive : deriveImageTypeFromFilenamePattern filename = some type)
    (hcasync : ¬IsCasyncType type) :
    deriveImageTypeFromFilenamePattern (indexFilename filename) = some (casyncType type) ↔
      Convertible filename := by
  have hplain := derive_plain hderive hcasync
  unfold indexFilename Convertible
  by_cases harchive : imageIsArchive filename = true
  · have htype : type = "tar" ∨ type = "catar" := by
      unfold imageIsArchive at harchive
      rcases entry_cases hplain with ⟨-, rfl⟩ | ⟨hcatar, hrest⟩
      · exact Or.inr rfl
      · rw [hcatar, Bool.or_false] at harchive
        rw [harchive, if_pos rfl] at hrest
        exact Or.inl (Option.some.inj hrest).symm
    rw [if_pos harchive, derive_tree, casyncType, if_pos htype]
    simp only [harchive, true_or]
  · have htail := hplain
    unfold imageIsArchive at harchive
    rw [Bool.or_eq_true, not_or, Bool.not_eq_true, Bool.not_eq_true] at harchive
    rw [harchive.1, harchive.2, if_neg (by decide), if_neg (by decide)] at htail
    have hnot : imageIsArchive filename = false := by
      unfold imageIsArchive
      rw [harchive.1, harchive.2]
      rfl
    rw [hnot, if_neg (by decide), derive_blob_iff htail]
    simp only [Bool.false_eq_true, false_or]

/-- The slots that can be written from an index: no boot slots, no VFAT image to a VFAT slot, no
archive to JFFS2. -/
def CasyncSlot (type slotType : String) : Prop :=
  hasPrefix "boot-" slotType = false ∧ (type, slotType) ≠ ("vfat", "vfat") ∧
    (type, slotType) ≠ ("tar", "jffs2")

instance (type slotType : String) : Decidable (CasyncSlot type slotType) :=
  inferInstanceAs (Decidable (_ ∧ _))

lemma derive_mem (hderive : deriveImageTypeFromFilenamePattern filename = some type) :
    type ∈ extTypeMap.map Prod.snd := by
  obtain ⟨e, hfind, rfl⟩ := Option.map_eq_some_iff.mp hderive
  exact List.mem_map_of_mem (List.mem_of_find?_eq_some hfind)

lemma casyncType_supported (hderive : deriveImageTypeFromFilenamePattern filename = some type)
    (hcasync : ¬IsCasyncType type) : isImageTypeSupported (casyncType type) = true := by
  have htable : ∀ t ∈ extTypeMap.map Prod.snd, ¬IsCasyncType t →
      isImageTypeSupported (casyncType t) = true := by
    decide +kernel
  exact htable type (derive_mem hderive) hcasync

lemma casyncType_handler_iff (hderive : deriveImageTypeFromFilenamePattern filename = some type)
    (hcasync : ¬IsCasyncType type) {slotType : String}
    (hhandler : getHandlerFromType type slotType ≠ none) :
    getHandlerFromType (casyncType type) slotType ≠ none ↔ CasyncSlot type slotType := by
  have htable : ∀ e ∈ imageTypeMap, e.1 ∈ extTypeMap.map Prod.snd → ¬IsCasyncType e.1 →
      (getHandlerFromType (casyncType e.1) e.2.1 ≠ none ↔ CasyncSlot e.1 e.2.1) := by
    decide +kernel
  obtain ⟨handler, hhandler⟩ := Option.ne_none_iff_exists'.mp hhandler
  obtain ⟨e, hfind, -⟩ := Option.map_eq_some_iff.mp hhandler
  have hentry := List.find?_some hfind
  simp only [Bool.and_eq_true, beq_iff_eq] at hentry
  obtain ⟨rfl, rfl⟩ := hentry
  exact htable e (List.mem_of_find?_eq_some hfind) (derive_mem hderive) hcasync

end Names

section Manifests

variable {σ : Type} (ignoreImages : List String) {group : String} {image : RaucImage}
  {m : RaucManifest}

/-- The file name after the conversion. -/
def indexedImage (image : RaucImage) : RaucImage :=
  { image with filename := image.filename.map (fun filename =>
      if ignoredImage ignoreImages image then filename else indexFilename filename) }

/-- What the converted image is meant to be: the index, under the type that belongs to it. -/
def casyncImage (image : RaucImage) : RaucImage :=
  { indexedImage ignoreImages image with
    type := if image.typeFromFileext ∧ ignoredImage ignoreImages image =
      false then image.type.map casyncType
      else image.type }

/-- The type as the parser finds it for a saved image. -/
def retypedImage (image : RaucImage) : RaucImage :=
  { image with
    type := if image.typeFromFileext then image.filename.bind deriveImageTypeFromFilenamePattern
      else image.type }

/-- An image that is saved, and for which an index is made under a type that follows from its file
name. -/
structure IndexedByName (image : RaucImage) (filename type : String) : Prop where
  slotclass : image.slotclass ≠ none
  filename : image.filename = some filename
  derived : image.typeFromFileext = true
  type : image.type = some type
  converted : ignoredImage ignoreImages image = false

/-- The converted manifest. -/
def ConvertedFrom (m m' : RaucManifest) : Prop :=
  m' = { m with
    bundleVeritySalt := none, bundleVerityHash := none, bundleVeritySize := 0,
    images := m.images.map (indexedImage ignoreImages) }

lemma accepted_of_mem {groups : List String} {images : List RaucImage}
    (h : List.Forall₂ AcceptedImage groups images)
    (himage : image ∈ images) : ∃ group, AcceptedImage group image := by
  obtain ⟨i, hi, rfl⟩ := List.getElem_of_mem himage
  exact ⟨_, h.get (h.length_eq ▸ hi) hi⟩

lemma convertToCasyncImages_returns (images : List RaucImage) :
    Returns (convertToCasyncImages ignoreImages images : Prog σ GError (List RaucImage))
      (fun images' => images' = images.map (indexedImage ignoreImages)) := by
  induction images with
  | nil => exact returns_pure rfl
  | cons image rest ih =>
    rw [List.map_cons]
    unfold convertToCasyncImages
    cases hfile : image.filename with
    | none =>
      have hkept : indexedImage ignoreImages image = image := by
        unfold indexedImage
        rw [hfile, Option.map_none, ← hfile]
      apply returns_bind ih
      rintro _ rfl
      apply returns_pure
      rw [hkept]
    | some filename =>
      by_cases hignored : ignoredImage ignoreImages image = true
      · have hkept : indexedImage ignoreImages image = image := by
          unfold indexedImage
          simp only [hignored, if_true, Option.map_id']
        simp only [hignored, if_true]
        apply returns_bind ih
        rintro _ rfl
        apply returns_pure
        rw [hkept]
      · have hindexed : indexedImage ignoreImages image =
            { image with filename := some (indexFilename filename) } := by
          unfold indexedImage
          rw [hfile, Option.map_some, if_neg hignored]
        simp only [hignored]
        apply returns_bind (returns_any _)
        intro _ _
        apply returns_bind (returns_any _)
        intro _ _
        apply returns_bind ih
        rintro _ rfl
        apply returns_pure
        rw [hindexed]

lemma convertToCasyncManifest_returns (m : RaucManifest) :
    Returns (convertToCasyncManifest ignoreImages m : Prog σ GError RaucManifest)
      (ConvertedFrom ignoreImages m) := by
  apply returns_bind (convertToCasyncImages_returns ignoreImages m.images)
  rintro _ rfl
  exact returns_pure rfl

/-- A type that follows from the file name is not written. -/
lemma imageSection_retypedImage (image : RaucImage) : imageSection (retypedImage image) =
    imageSection image := by
  have htexts : imageTexts (retypedImage image) = imageTexts image := by
    unfold imageTexts retypedImage
    cases image.typeFromFileext with
    | true => rfl
    | false => rfl
  unfold imageSection
  rw [htexts]
  rfl

/-- The derived type of a parsed image is the one for its file name. -/
lemma AcceptedImage.derive (h : AcceptedImage group image) {filename type : String}
    (hindexed : IndexedByName ignoreImages image filename type) :
    deriveImageTypeFromFilenamePattern filename = some type := by
  obtain ⟨-, name, hname, htype⟩ := h.derived_type hindexed.derived
  obtain rfl : filename = name := Option.some.inj (hindexed.filename.symm.trans hname)
  exact htype.symm.trans hindexed.type

lemma indexFilename_ne_empty (filename : String) : indexFilename filename ≠ "" := by
  unfold indexFilename
  intro heq
  have hlength := congrArg String.length heq
  split_ifs at hlength
  · simp [String.length_append] at hlength
  · simp [String.length_append] at hlength

/-- An image without index is as it was. -/
lemma AcceptedImage.kept (h : AcceptedImage group image)
    (hkept : ∀ filename, image.filename = some filename → ignoredImage ignoreImages image = true) :
    indexedImage ignoreImages image = image ∧ retypedImage image = image := by
  constructor
  · unfold indexedImage
    cases hfile : image.filename with
    | none => rw [Option.map_none, ← hfile]
    | some filename => rw [hkept filename hfile, Option.map_some, if_pos rfl, ← hfile]
  · unfold retypedImage
    by_cases hderived : image.typeFromFileext = true
    · obtain ⟨-, filename, hfile, htype⟩ := h.derived_type hderived
      rw [if_pos hderived, hfile, Option.bind_some, ← htype, ← hfile]
    · rw [if_neg hderived]

lemma retypedImage_indexed {filename : String} (hfile : image.filename = some filename)
    (hignored : ignoredImage ignoreImages image = false) :
    retypedImage (indexedImage ignoreImages image) =
      { image with
        filename := some (indexFilename filename)
        type := if image.typeFromFileext then deriveImageTypeFromFilenamePattern
          (indexFilename filename)
          else image.type } := by
  simp [retypedImage, indexedImage, hfile, hignored]

/-- The type is known whenever it follows from the file name. -/
lemma AcceptedImage.indexedByName (h : AcceptedImage group image)
    (hslotclass : image.slotclass ≠ none)
    {filename : String} (hfile : image.filename = some filename)
    (hignored : ignoredImage ignoreImages image = false)
    (hderived : image.typeFromFileext = true) :
      ∃ type, IndexedByName ignoreImages image filename type := by
  have hartifact : image.artifact = none := by
    by_contra hartifact
    rw [(h.artifact_type hartifact).2] at hderived
    exact absurd hderived (by decide)
  have hsupported := h.supported_type hartifact (h.derived_type hderived).1
  cases htype : image.type with
  | none =>
    rw [htype] at hsupported
    exact absurd hsupported (by simp)
  | some type => exact ⟨type, hslotclass, hfile, hderived, htype, hignored⟩

/-- A converted image passes the parser when the type of its index is known. -/
lemma acceptedImage_converted (h : AcceptedImage group image) (hslotclass : image.slotclass ≠ none)
    (hindex : ∀ filename type, IndexedByName ignoreImages image filename type →
      ∃ type', deriveImageTypeFromFilenamePattern (indexFilename filename) = some type' ∧
        isImageTypeSupported type' = true) :
    AcceptedImage group (retypedImage (indexedImage ignoreImages image)) := by
  have hnotEmptyfs : ∀ t ∈ extTypeMap.map Prod.snd, t ≠ "emptyfs" := by decide
  by_cases hkept : ∀ filename, image.filename = some filename →
    ignoredImage ignoreImages image = true
  · rw [(h.kept ignoreImages hkept).1, (h.kept ignoreImages hkept).2]
    exact h
  · push Not at hkept
    obtain ⟨filename, hfile, hignored⟩ := hkept
    rw [Ne, Bool.not_eq_true] at hignored
    rw [retypedImage_indexed ignoreImages hfile hignored]
    have hvalid := h.filename_ok
    have hname : some (indexFilename filename) ≠ some "" :=
      fun heq => indexFilename_ne_empty filename (Option.some.inj heq)
    by_cases hderived : image.typeFromFileext = true
    · obtain ⟨type, hindexed⟩ := h.indexedByName ignoreImages hslotclass hfile hignored hderived
      obtain ⟨type', hderive, hsupported⟩ := hindex filename type hindexed
      have hne : type' ≠ "emptyfs" := hnotEmptyfs type' (derive_mem hderive)
      rw [if_pos hderived, hderive]
      refine ⟨h.target, h.digest_nonempty, h.checksum_type, hname, ?_, ?_, ?_, ?_, ?_⟩
      · exact hderive ▸ derive_ne_empty (indexFilename filename)
      · intro hartifact
        have hnot := (h.artifact_type hartifact).2
        rw [hderived] at hnot
        exact absurd hnot (by decide)
      · exact fun _ => ⟨(h.derived_type hderived).1, indexFilename filename, rfl, hderive.symm⟩
      · exact fun _ _ => hsupported
      · simp [validateFilenameRequirements, hne]
    · rw [if_neg hderived]
      refine ⟨h.target, h.digest_nonempty, h.checksum_type, hname, h.type_nonempty,
        h.artifact_type, ?_,
        h.supported_type, ?_⟩
      · exact fun hflag => absurd hflag hderived
      · simpa [validateFilenameRequirements, hfile] using hvalid

/-- The images that are saved keep their groups. -/
lemma forall₂_saved {groups : List String} {images : List RaucImage} {f : RaucImage → RaucImage}
    (h : List.Forall₂ AcceptedImage groups images)
    (hf : ∀ image ∈ images, image.slotclass ≠ none → ∀ group, AcceptedImage group image →
      AcceptedImage group (f image)) :
    ∃ saved : List String, saved.Sublist groups ∧
      List.Forall₂ AcceptedImage saved ((images.filter (fun image => image.slotclass.isSome)).map
        f) := by
  induction h with
  | nil => exact ⟨[], List.Sublist.slnil, .nil⟩
  | @cons group image groups images himage _ ih =>
    obtain ⟨saved, hsublist, hsaved⟩ :=
      ih (fun other hother => hf other (List.mem_cons_of_mem image hother))
    cases hslotclass : image.slotclass with
    | none => exact ⟨saved, hsublist.cons group, by simpa [hslotclass] using hsaved⟩
    | some slotclass =>
      refine ⟨group :: saved, hsublist.cons_cons group, ?_⟩
      rw [List.filter_cons, if_pos (by simp [hslotclass]), List.map_cons]
      exact .cons (hf image List.mem_cons_self (by simp [hslotclass]) group himage) hsaved

/-- The saved images of the converted manifest, with the types that the parser finds. -/
def reloadedImages (images : List RaucImage) : List RaucImage :=
  (images.filter (fun image => image.slotclass.isSome)).map (fun image =>
    retypedImage (indexedImage ignoreImages image))

lemma acceptedManifest_converted (h : AcceptedManifest { m with hash := none })
    (hindex : ∀ image ∈ m.images, ∀ filename type, IndexedByName ignoreImages image filename type →
      ∃ type', deriveImageTypeFromFilenamePattern (indexFilename filename) = some type' ∧
        isImageTypeSupported type' = true) {m' : RaucManifest}
          (hconverted : ConvertedFrom ignoreImages m m') :
    AcceptedManifest { m' with images := reloadedImages ignoreImages m.images, hash := none } := by
  subst hconverted
  obtain ⟨groups, hnodup, hpre, himages⟩ := h.images
  obtain ⟨saved, hsublist, hsaved⟩ := forall₂_saved himages
    (fun image himage hslotclass _ haccepted =>
      acceptedImage_converted ignoreImages haccepted hslotclass (hindex image himage))
  have hstrings := h.strings
  simp only [manifestStrings, List.forall_mem_cons] at hstrings
  obtain ⟨hc, hv, hd, hb, hr, -, -, hkey, hname, hargs, hhook, -⟩ := hstrings
  refine ⟨h.compatible, ?_, ?_, h.handler, ⟨saved, hnodup.sublist hsublist, ?_, hsaved⟩,
    h.metaTable, rfl⟩
  · simp [manifestStrings, hc, hv, hd, hb, hr, hkey, hname, hargs, hhook]
  · have hformat := h.format
    unfold AcceptedFormat at hformat ⊢
    cases hkind : m.bundleFormat with
    | plain =>
      simp only [hkind] at hformat ⊢
      exact ⟨hformat.1, trivial, trivial, trivial, hformat.2.2.2.2⟩
    | verity => simpa only [hkind] using hformat
    | crypt => simpa only [hkind] using hformat
  · exact fun group hgroup => hpre group (hsublist.subset hgroup)

/-- What is saved does not depend on the images that are skipped and on the types that are not
written. -/
lemma saveManifestMem_converted (order : MetaOrder) {m' : RaucManifest}
    (hconverted : ConvertedFrom ignoreImages m m') :
    saveManifestMem order { m' with images := reloadedImages ignoreImages m.images, hash := none } =
      saveManifestMem order m' := by
  subst hconverted
  have hskipped : ∀ images : List RaucImage,
      (reloadedImages ignoreImages images).filterMap imageSection =
        (images.map (indexedImage ignoreImages)).filterMap imageSection := by
    intro images
    unfold reloadedImages
    induction images with
    | nil => rfl
    | cons image rest ih =>
      cases hslotclass : image.slotclass with
      | none =>
        rw [List.filter_cons, if_neg (by simp [hslotclass]), ih, List.map_cons,
          List.filterMap_cons_none]
        exact imageSection_none hslotclass
      | some slotclass =>
        rw [List.filter_cons, if_pos (by simp [hslotclass]), List.map_cons, List.map_cons,
          List.filterMap_cons,
          List.filterMap_cons, ih, imageSection_retypedImage]
  unfold saveManifestMem prepareManifest manifestSections
  simp only [hskipped]
  rfl

lemma writtenImages_map (f : RaucImage → RaucImage)
    (hslotclass : ∀ image, (f image).slotclass = image.slotclass)
    (images : List RaucImage) :
    writtenImages (images.map f) =
      (images.filter (fun image => image.slotclass.isSome)).map (fun image =>
        writtenImage (f image)) := by
  unfold writtenImages
  rw [List.filter_map, List.map_map]
  simp only [Function.comp_def, hslotclass]

/-- The image that the parser finds is the one that is meant when the index has the right type. -/
lemma AcceptedImage.retyped_eq_casync (h : AcceptedImage group image)
    (hslotclass : image.slotclass ≠ none)
    (hindex : ∀ filename type, IndexedByName ignoreImages image filename type →
      deriveImageTypeFromFilenamePattern (indexFilename filename) = some (casyncType type)) :
    retypedImage (indexedImage ignoreImages image) = casyncImage ignoreImages image := by
  by_cases hkept : ∀ filename, image.filename = some filename →
    ignoredImage ignoreImages image = true
  · have hnot : ¬(image.typeFromFileext = true ∧ ignoredImage ignoreImages image = false) := by
      rintro ⟨hderived, hignored⟩
      obtain ⟨-, filename, hfile, -⟩ := h.derived_type hderived
      rw [hkept filename hfile] at hignored
      exact absurd hignored (by decide)
    unfold casyncImage
    rw [if_neg hnot, (h.kept ignoreImages hkept).1, (h.kept ignoreImages hkept).2]
  · push Not at hkept
    obtain ⟨filename, hfile, hignored⟩ := hkept
    rw [Ne, Bool.not_eq_true] at hignored
    rw [retypedImage_indexed ignoreImages hfile hignored]
    unfold casyncImage indexedImage
    by_cases hderived : image.typeFromFileext = true
    · obtain ⟨type, hindexed⟩ := h.indexedByName ignoreImages hslotclass hfile hignored hderived
      rw [if_pos hderived, if_pos ⟨hderived, hignored⟩, hindex filename type hindexed,
        hindexed.type, hfile, hignored]
      rfl
    · rw [if_neg hderived, if_neg (fun hboth => hderived hboth.1), hfile, hignored]
      rfl

/-- What comes back from the saved manifest. -/
lemma loadManifestMem_converted (digest : KeyFile → String) (order : MetaOrder) {m' : RaucManifest}
    (h : AcceptedManifest { m with hash := none })
    (hindex : ∀ image ∈ m.images, ∀ filename type, IndexedByName ignoreImages image filename type →
      deriveImageTypeFromFilenamePattern (indexFilename filename) = some (casyncType type) ∧
        isImageTypeSupported (casyncType type) = true)
          (hconverted : ConvertedFrom ignoreImages m m') :
    ∃ back, loadManifestMem digest (saveManifestMem order m') = .value back ∧
      back.images = writtenImages (m.images.map (casyncImage ignoreImages)) := by
  have haccepted := acceptedManifest_converted ignoreImages h
    (fun image himage filename type hindexed => ⟨_, hindex image himage filename type hindexed⟩)
      hconverted
  obtain ⟨back, hvalue, hfields, -⟩ := parseManifest_saved order haccepted
  rw [saveManifestMem_converted ignoreImages order hconverted] at hvalue
  refine ⟨{ back with hash := some (digest (saveManifestMem order m')) }, ?_, ?_⟩
  · unfold loadManifestMem
    rw [hvalue]
  · have hback : back.images = writtenImages (reloadedImages ignoreImages m.images) :=
      congrArg RaucManifest.images hfields
    obtain ⟨groups, -, -, himages⟩ := h.images
    have hretyped :=
      writtenImages_map (fun image => retypedImage (indexedImage ignoreImages image)) (fun _ => rfl)
      (m.images.filter (fun image => image.slotclass.isSome))
    have hcasync := writtenImages_map (casyncImage ignoreImages) (fun _ => rfl) m.images
    rw [hback, reloadedImages, hretyped, hcasync, List.filter_filter]
    simp only [Bool.and_self]
    apply List.map_congr_left
    intro image hmem
    obtain ⟨himage, hslotclass⟩ := List.mem_filter.mp hmem
    obtain ⟨group, hone⟩ := accepted_of_mem himages himage
    rw [hone.retyped_eq_casync ignoreImages (Option.isSome_iff_ne_none.mp hslotclass)
      (fun filename type hindexed => (hindex image himage filename type hindexed).1)]

/-- Which names keep their type, and what that means for a manifest: the images that come back from
the saved manifest are the ones that are meant exactly when every name whose type counts is
convertible. -/
theorem casync_conversion_iff (σ : Type) (digest : KeyFile → String) (order : MetaOrder)
    (ignoreImages : List String) :
    (∀ filename type, deriveImageTypeFromFilenamePattern filename = some type → ¬IsCasyncType type →
      (deriveImageTypeFromFilenamePattern (indexFilename filename) = some (casyncType type) ↔
        Convertible filename) ∧
      isImageTypeSupported (casyncType type) = true ∧
      ∀ slotType, getHandlerFromType type slotType ≠ none →
        (getHandlerFromType (casyncType type) slotType ≠ none ↔ CasyncSlot type slotType)) ∧
    ∀ keyFile m, loadManifestMem digest keyFile = .value m →
      (∀ image ∈ m.images, ∀ filename type, IndexedByName ignoreImages image filename type →
        ¬IsCasyncType type) →
      ∀ (w : World σ) m', (convertToCasyncManifest ignoreImages m w).1 = .value m' →
        ((∃ back, loadManifestMem digest (saveManifestMem order m') = .value back ∧
            back.images = writtenImages (m.images.map (casyncImage ignoreImages))) ↔
          ∀ image ∈ m.images, ∀ filename type, IndexedByName ignoreImages image filename type →
            Convertible filename) := by
  refine ⟨fun filename type hderive hcasync => ⟨derive_indexFilename_iff hderive hcasync,
    casyncType_supported hderive hcasync, fun _ hhandler => casyncType_handler_iff hderive hcasync
      hhandler⟩, ?_⟩
  intro keyFile m hload hcasync w m' hrun
  have haccepted := loadManifestMem_accepted hload
  have hconverted : ConvertedFrom ignoreImages m m' :=
    (convertToCasyncManifest_returns ignoreImages m).value trivial hrun
  obtain ⟨groups, -, -, himages⟩ := haccepted.images
  have hderive : ∀ image ∈ m.images, ∀ filename type,
      IndexedByName ignoreImages image filename type →
      deriveImageTypeFromFilenamePattern filename = some type := by
    intro image himage filename type hindexed
    obtain ⟨group, hone⟩ := accepted_of_mem himages himage
    exact hone.derive ignoreImages hindexed
  constructor
  · rintro ⟨back, hback, hmeant⟩ image himage filename type hindexed
    have hknown := hderive image himage filename type hindexed
    apply (derive_indexFilename_iff hknown (hcasync image himage filename type hindexed)).mp
    -- the image that came back was accepted, so its type is the one for its name
    obtain ⟨names, -, -, hread⟩ := (loadManifestMem_accepted hback).images
    have hwritten : writtenImage (casyncImage ignoreImages image) ∈ back.images := by
      rw [hmeant, writtenImages_map (casyncImage ignoreImages) (fun _ => rfl) m.images]
      exact List.mem_map_of_mem (List.mem_filter.mpr ⟨himage,
        Option.isSome_iff_ne_none.mpr hindexed.slotclass⟩)
    obtain ⟨group, hone⟩ := accepted_of_mem hread hwritten
    obtain ⟨-, name, hname, htype⟩ := hone.derived_type hindexed.derived
    have hfile : (casyncImage ignoreImages image).filename = some (indexFilename filename) := by
      simp [casyncImage, indexedImage, hindexed.filename, hindexed.converted]
    have htypeMeant : (casyncImage ignoreImages image).type = some (casyncType type) := by
      simp [casyncImage, hindexed.derived, hindexed.converted, hindexed.type]
    obtain rfl : indexFilename filename = name := Option.some.inj (hfile.symm.trans hname)
    exact htype.symm.trans htypeMeant
  · intro hconvertible
    apply loadManifestMem_converted ignoreImages digest order haccepted ?_ hconverted
    intro image himage filename type hindexed
    have hknown := hderive image himage filename type hindexed
    have hnot := hcasync image himage filename type hindexed
    exact ⟨(derive_indexFilename_iff hknown hnot).mpr
      (hconvertible image himage filename type hindexed),
      casyncType_supported hknown hnot⟩

/-- The manifest of a bundle with one image that has no explicit type. -/
def namedKeyFile (filename : String) : KeyFile :=
  ⟨[("update", ⟨[("compatible", "Test System")], List.nodup_singleton "compatible"⟩),
    ("bundle", ⟨[("format", "verity")], List.nodup_singleton "format"⟩),
    ("image.rootfs", Table.empty.set "filename" filename)], by simp⟩

def namedImage (filename type : String) : RaucImage where
  slotclass := some "rootfs"
  filename := some filename
  type := some type
  typeFromFileext := true
  checksum := ⟨.md5, none, -1⟩

def namedManifest (filename type : String) : RaucManifest where
  updateCompatible := some "Test System"
  bundleFormat := .verity
  bundleFormatExplicit := true
  images := [namedImage filename type]
  hash := some ""

theorem casync_conversion_ext4 :
    deriveImageTypeFromFilenamePattern (indexFilename "rootfs.ext4") = some "ext4-caibx" ∧
      getHandlerFromType "ext4-caibx" "ext4" ≠ none ∧
      ∃ m' back, (convertToCasyncManifest [] (namedManifest "rootfs.ext4" "ext4")
        (Prog.calm ())).1 = .value m' ∧
        loadManifestMem (fun _ => "") (saveManifestMem insertionOrder m') = .value back ∧
        back.images = writtenImages [casyncImage [] (namedImage "rootfs.ext4" "ext4")] := by
  obtain ⟨hnames, hmanifests⟩ := casync_conversion_iff Unit (fun _ => "") insertionOrder []
  obtain ⟨htype, -, hhandler⟩ := hnames "rootfs.ext4" "ext4" (by decide +kernel) (by decide)
  refine ⟨htype.mpr (by decide +kernel), (hhandler "ext4" (by decide)).mpr (by decide), ?_⟩
  have hone : ∀ image ∈ (namedManifest "rootfs.ext4" "ext4").images, ∀ filename type,
      IndexedByName [] image filename type → filename = "rootfs.ext4" ∧ type = "ext4" := by
    intro image himage filename type hindexed
    obtain rfl := List.mem_singleton.mp himage
    exact ⟨(Option.some.inj hindexed.filename).symm, (Option.some.inj hindexed.type).symm⟩
  obtain ⟨back, hback, himages⟩ :=
    (hmanifests (namedKeyFile "rootfs.ext4") (namedManifest "rootfs.ext4" "ext4")
    (by decide +kernel) (fun image himage filename type hindexed => by
      rw [(hone image himage filename type hindexed).2]
      decide) (Prog.calm ()) _ rfl).mpr (fun image himage filename type hindexed => by
        rw [(hone image himage filename type hindexed).1]
        decide +kernel)
  exact ⟨_, back, rfl, hback, himages⟩

/-- The index of a `.tgz` has no type, so the parser refuses the converted manifest; and a squashfs
that ends like a UBIFS becomes one. -/
theorem tgz_index_untyped :
    deriveImageTypeFromFilenamePattern "rootfs.tgz" = some "tar" ∧
      deriveImageTypeFromFilenamePattern (indexFilename "rootfs.tgz") = none ∧
      loadManifestMem (fun _ => "") (namedKeyFile "rootfs.tgz") =
        .value (namedManifest "rootfs.tgz" "tar") ∧
      (∃ m' e, (convertToCasyncManifest [] (namedManifest "rootfs.tgz" "tar") (Prog.calm ())).1 =
        .value m' ∧
        loadManifestMem (fun _ => "") (saveManifestMem insertionOrder m') = .exit e) ∧
      deriveImageTypeFromFilenamePattern "a.squashfs-b.ubifs" = some "squashfs" ∧
      deriveImageTypeFromFilenamePattern (indexFilename "a.squashfs-b.ubifs") =
        some "ubifs-caibx" := by
  have hparse : loadManifestMem (fun _ => "") (namedKeyFile "rootfs.tgz") =
      .value (namedManifest "rootfs.tgz" "tar") := by
    decide +kernel
  have hnone : deriveImageTypeFromFilenamePattern (indexFilename "rootfs.tgz") = none := by
    decide +kernel
  have hrefused : loadManifestMem (fun _ => "")
      (saveManifestMem insertionOrder (namedManifest (indexFilename "rootfs.tgz") "tar")) =
        .exit (.error ⟨.keyFileInvalidValue,
          "Cannot parse [image.rootfs]: No 'type=' set and unable to map extension of " ++
          "file 'rootfs.tgz.caibx' to known image type"⟩) := by
    decide +kernel
  exact ⟨by decide +kernel, hnone, hparse, ⟨_, _, rfl, hrefused⟩, by decide +kernel,
    by decide +kernel⟩

end Manifests

end RaucUpdate
