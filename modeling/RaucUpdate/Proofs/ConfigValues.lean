import RaucUpdate.Library.Decimals
import RaucUpdate.Model.BundleFormats
import RaucUpdate.Model.SlotConfig

/-!
# Values of the configuration

What the sizes and the bundle formats mean that are written in the system configuration.
-/

namespace RaucUpdate

open Library

section Sizes

/-- The suffixes of a size with their powers of 1024. -/
def sizeSuffixes : List (List Char × Nat) :=
  [([], 0), (['K'], 1), (['k'], 1), (['M'], 2), (['m'], 2), (['G'], 3), (['g'], 3),
    (['T'], 4), (['t'], 4)]

/-- The text is a decimal number with at most one suffix, and the size they mean fits into 64
bits. -/
def SizeText (text : String) (size : Nat) : Prop :=
  ∃ digits suffix power, text.toList = digits ++ suffix ∧ digits ≠ [] ∧ AllDigits digits ∧
    (suffix, power) ∈ sizeSuffixes ∧ size = decimalValue digits * 1024 ^ power ∧ size < 2 ^ 64

lemma suffix_not_digit {suffix : List Char} {power : Nat} (h : (suffix, power) ∈ sizeSuffixes) :
    ∀ c ∈ suffix.head?, c.isDigit = false := by
  simp only [sizeSuffixes, List.mem_cons, Prod.mk.injEq, List.not_mem_nil, or_false] at h
  rcases h with ⟨rfl, -⟩ | ⟨rfl, -⟩ | ⟨rfl, -⟩ | ⟨rfl, -⟩ | ⟨rfl, -⟩ | ⟨rfl, -⟩ | ⟨rfl, -⟩ | ⟨rfl,
    -⟩ | ⟨rfl, -⟩ <;>
    simp

lemma binarySuffixed_of_sizeText {text : String} {size : Nat} (h : SizeText text size) :
    binarySuffixed text = size := by
  obtain ⟨digits, suffix, power, htext, hne, hdigits, hsuffix, rfl, hfits⟩ := h
  have hread := strtoull_digits htext hne hdigits (suffix_not_digit hsuffix)
  have hvalue : decimalValue digits ≤ decimalValue digits * 1024 ^ power :=
    Nat.le_mul_of_pos_right _ (by positivity)
  have hmin : min (decimalValue digits) (2 ^ 64 - 1) = decimalValue digits := min_eq_left (by omega)
  unfold binarySuffixed
  rw [hread, hmin]
  simp only [sizeSuffixes, List.mem_cons, Prod.mk.injEq, List.not_mem_nil, or_false] at hsuffix
  rcases hsuffix with ⟨rfl, rfl⟩ | ⟨rfl, rfl⟩ | ⟨rfl, rfl⟩ | ⟨rfl, rfl⟩ | ⟨rfl, rfl⟩ | ⟨rfl, rfl⟩
    | ⟨rfl, rfl⟩ |
    ⟨rfl, rfl⟩ | ⟨rfl, rfl⟩ <;>
    norm_num at hfits ⊢ <;>
    exact hfits

variable {keyFile : KeyFile} {group key text : String}

lemma observe_binarySuffixed (h : keyFile.getString group key = .ok text) (hne : text ≠ "") :
    Prog.observe (keyFileConsumeBinarySuffixedString group key) keyFile =
      .value (.ok (binarySuffixed text)) := by
  simp only [Prog.observe, keyFileConsumeBinarySuffixedString, keyFileConsumeString, Bind.bind,
    Prog.bind, Prog.read,
    Prog.calm, h, Prog.modify, hne, if_false]
  rfl

lemma observe_binarySuffixed_empty (h : keyFile.getString group key = .ok "") :
    ∃ e, Prog.observe (keyFileConsumeBinarySuffixedString group key) keyFile =
      .value (.error e) := by
  refine ⟨⟨.keyFileParse, "Missing value for key '" ++ key ++ "'"⟩, ?_⟩
  simp only [Prog.observe, keyFileConsumeBinarySuffixedString, keyFileConsumeString, Bind.bind,
    Prog.bind, Prog.read,
    Prog.calm, h, Prog.modify, if_true]
  rfl

lemma not_sizeText_empty : ¬ ∃ size, SizeText "" size := by
  rintro ⟨size, digits, suffix, power, htext, hne, -⟩
  rw [String.toList_empty] at htext
  exact hne (List.append_eq_nil_iff.mp htext.symm).1

/-- A value is read as the size that it means or reported as an error, exactly when it is empty or
the text of a size: no other value is reported. -/
theorem binarySuffixedString_exact_iff (h : keyFile.getString group key = .ok text) :
    ((∃ size, Prog.observe (keyFileConsumeBinarySuffixedString group key) keyFile =
        .value (.ok size) ∧
        SizeText text size) ∨
      (∃ e, Prog.observe (keyFileConsumeBinarySuffixedString group key) keyFile =
        .value (.error e)) ∧
        ¬ ∃ size, SizeText text size) ↔
      text = "" ∨ ∃ size, SizeText text size := by
  constructor
  · rintro (⟨size, -, hsize⟩ | ⟨⟨e, he⟩, -⟩)
    · exact .inr ⟨size, hsize⟩
    · by_contra hno
      simp only [not_or] at hno
      rw [observe_binarySuffixed h hno.1] at he
      exact absurd he (by simp)
  · rintro (rfl | ⟨size, hsize⟩)
    · exact .inr ⟨observe_binarySuffixed_empty h, not_sizeText_empty⟩
    · have hne : text ≠ "" := by
        rintro rfl
        exact not_sizeText_empty ⟨size, hsize⟩
      refine .inl ⟨size, ?_, hsize⟩
      rw [observe_binarySuffixed h hne, binarySuffixed_of_sizeText hsize]

def regionFile (value : String) : KeyFile :=
  ⟨[("slot.bootloader.0", ⟨[("region-size", value)], by simp⟩)], by simp⟩

theorem binarySuffixedString_exact_region :
    Prog.observe (keyFileConsumeBinarySuffixedString "slot.bootloader.0" "region-size")
      (regionFile "64M") =
      .value (.ok (64 * 1024 ^ 2)) := by
  have hsize : SizeText "64M" (64 * 1024 ^ 2) :=
    ⟨['6', '4'], ['M'], 2, by decide, by decide, by decide, by decide, by decide, by decide⟩
  have hread : (regionFile "64M").getString "slot.bootloader.0" "region-size" = .ok "64M" := by
    decide +kernel
  rcases (binarySuffixedString_exact_iff hread).mpr (.inr ⟨_, hsize⟩) with ⟨size, hrun,
    hsize'⟩ | ⟨-, hno⟩
  · rw [hrun, ← binarySuffixed_of_sizeText hsize', binarySuffixed_of_sizeText hsize]
  · exact absurd ⟨_, hsize⟩ hno

/-- A size in kibibytes that is written as such is read as bytes, and one that is too large as
zero. -/
theorem binarySuffixedString_misread :
    Prog.observe (keyFileConsumeBinarySuffixedString "slot.bootloader.0" "region-size")
      (regionFile "64 KiB") =
      .value (.ok 64) ∧
    Prog.observe (keyFileConsumeBinarySuffixedString "slot.bootloader.0" "region-size")
      (regionFile "16777216T") =
      .value (.ok 0) ∧
    ¬ (∃ size, SizeText "64 KiB" size) := by
  refine ⟨by decide +kernel, by decide +kernel, ?_⟩
  rintro ⟨size, digits, suffix, power, htext, -, hdigits, hsuffix, -⟩
  have hlast : some 'B' = (digits ++ suffix).getLast? := congrArg List.getLast? htext
  simp only [sizeSuffixes, List.mem_cons, Prod.mk.injEq, List.not_mem_nil, or_false] at hsuffix
  rcases hsuffix with ⟨rfl, -⟩ | ⟨rfl, -⟩ | ⟨rfl, -⟩ | ⟨rfl, -⟩ | ⟨rfl, -⟩ | ⟨rfl, -⟩ | ⟨rfl, -⟩
    | ⟨rfl, -⟩ | ⟨rfl, -⟩
  · rw [List.append_nil] at hlast
    have hdigit := hdigits 'B' (List.mem_of_getLast? hlast.symm)
    exact absurd hdigit (by decide)
  all_goals simp at hlast

end Sizes

section Formats

/-- An entry of the list of bundle formats. -/
inductive FormatEntry where
  | listed (format : BundleFormat)
  | added (format : BundleFormat)
  | removed (format : BundleFormat)
  deriving DecidableEq

def FormatEntry.text : FormatEntry → String
  | .listed format => rManifestBundleFormatToStr format
  | .added format => "+" ++ rManifestBundleFormatToStr format
  | .removed format => "-" ++ rManifestBundleFormatToStr format

/-- The entries that a configuration string consists of. -/
def FormatText (config : String) (entries : List FormatEntry) : Prop :=
  (splitFields ' ' config).filter (· ≠ "") = entries.map FormatEntry.text

def FormatEntry.IsListed (entry : FormatEntry) : Prop := ∃ format, entry = .listed format

/-- Both a plain entry and one with a sign occur. -/
def MixedEntries (entries : List FormatEntry) : Prop :=
  (∃ entry ∈ entries, entry.IsListed) ∧ ∃ entry ∈ entries, ¬ entry.IsListed

def maskFormats (mask : BitVec 32) : Set Nat := {i | mask.getLsbD i = true}

def listedFormats (entries : List FormatEntry) : Set Nat :=
  {i | ∃ format, .listed format ∈ entries ∧ formatBit format = i}

def FormatEntry.apply (formats : Set Nat) : FormatEntry → Set Nat
  | .listed format | .added format => insert (formatBit format) formats
  | .removed format => formats \ {formatBit format}

/-- The listed formats, or the given ones with the modifications from left to right. -/
def formatMeaning (formats : Set Nat) (entries : List FormatEntry) : Set Nat :=
  {i | (∃ entry ∈ entries, entry.IsListed) ∧ i ∈ listedFormats entries ∨
    (¬ ∃ entry ∈ entries, entry.IsListed) ∧ i ∈ entries.foldl FormatEntry.apply formats}

def FormatEntry.sign : FormatEntry → Option Char
  | .listed _ => none
  | .added _ => some '+'
  | .removed _ => some '-'

def FormatEntry.format : FormatEntry → BundleFormat
  | .listed format | .added format | .removed format => format

lemma cutFormatSign_text (entry : FormatEntry) :
    cutFormatSign entry.text = (entry.sign, rManifestBundleFormatToStr entry.format) := by
  rcases entry with ⟨_ | _ | _⟩ | ⟨_ | _ | _⟩ | ⟨_ | _ | _⟩ <;> decide

lemma bundleFormatNamed_iff {token : String} {format : BundleFormat} :
    bundleFormatNamed token = some format ↔ token = rManifestBundleFormatToStr format := by
  unfold bundleFormatNamed
  constructor
  · intro h
    split_ifs at h with hplain hverity hcrypt
    · obtain rfl := Option.some.inj h
      exact hplain
    · obtain rfl := Option.some.inj h
      exact hverity
    · obtain rfl := Option.some.inj h
      exact hcrypt
  · rintro rfl
    cases format <;> decide

/-- A token whose name is known is the text of an entry. -/
lemma exists_entry {token : String} {format : BundleFormat}
    (h : bundleFormatNamed (cutFormatSign token).2 = some format) :
    ∃ entry : FormatEntry, token = entry.text ∧ entry.format = format ∧ entry.sign =
      (cutFormatSign token).1 := by
  rw [bundleFormatNamed_iff] at h
  unfold cutFormatSign at h ⊢
  split at h
  · next rest hchars =>
    refine ⟨.removed format, ?_, rfl, rfl⟩
    rw [FormatEntry.text, ← h, ← String.toList_inj, hchars]
    simp [String.toList_append]
  · next rest hchars =>
    refine ⟨.added format, ?_, rfl, rfl⟩
    rw [FormatEntry.text, ← h, ← String.toList_inj, hchars]
    simp [String.toList_append]
  · exact ⟨.listed format, h, rfl, rfl⟩

/-- The loop fails at a token that is no entry, and otherwise works through the entries. -/
lemma scanFormats_cases (scan : FormatScan) (tokens : List String) :
    (∃ entries : List FormatEntry, tokens.filter (· ≠ "") = entries.map FormatEntry.text ∧
      scanFormats scan tokens =
        .ok (entries.foldl (fun scan entry => scanFormat scan entry.sign entry.format) scan)) ∨
    (∃ e, scanFormats scan tokens = .error e) ∧
      ∀ entries : List FormatEntry, tokens.filter (· ≠ "") ≠ entries.map FormatEntry.text := by
  induction tokens generalizing scan with
  | nil => exact .inl ⟨[], rfl, rfl⟩
  | cons token rest ih =>
    unfold scanFormats
    by_cases hempty : token = ""
    · simpa [hempty] using ih scan
    · have hfilter : (token :: rest).filter (· ≠ "") = token :: rest.filter (· ≠ "") :=
        List.filter_cons_of_pos (by simpa using hempty)
      rw [if_neg hempty, hfilter]
      simp only
      cases hname : bundleFormatNamed (cutFormatSign token).2 with
      | none =>
        refine .inr ⟨⟨_, rfl⟩, ?_⟩
        intro entries hentries
        cases entries with
        | nil => simp at hentries
        | cons entry entries =>
          obtain ⟨rfl, -⟩ := List.cons.inj hentries
          rw [cutFormatSign_text] at hname
          rw [bundleFormatNamed_iff.mpr rfl] at hname
          exact absurd hname (by simp)
      | some format =>
        obtain ⟨entry, rfl, rfl, hsign⟩ := exists_entry hname
        simp only
        rw [← hsign]
        rcases ih (scanFormat scan entry.sign entry.format) with ⟨entries, hentries, hscan⟩
          | ⟨herror, hno⟩
        · exact .inl ⟨entry :: entries, by rw [hentries, List.map_cons], hscan⟩
        · refine .inr ⟨herror, ?_⟩
          intro entries hentries
          cases entries with
          | nil => simp at hentries
          | cons first entries => exact hno entries (List.cons.inj hentries).2

end Formats

section Masks

lemma formatBit_lt (format : BundleFormat) : formatBit format < 32 := by
  cases format <;> decide

lemma getLsbD_bit {k : Nat} (hk : k < 32) (i : Nat) : (1#32 <<< k).getLsbD i = decide (i = k) := by
  rw [← BitVec.twoPow_eq, BitVec.getLsbD_twoPow]
  by_cases h : i = k
  · simp [h, hk]
  · simp [h, Ne.symm h]

lemma maskFormats_or {k : Nat} (hk : k < 32) (mask : BitVec 32) :
    maskFormats (mask ||| 1#32 <<< k) = insert k (maskFormats mask) := by
  ext i
  simp [maskFormats, getLsbD_bit hk, or_comm]

lemma maskFormats_clear {k : Nat} (hk : k < 32) (mask : BitVec 32) :
    maskFormats (mask &&& ~~~(1#32 <<< k)) = maskFormats mask \ {k} := by
  ext i
  by_cases hi : i < 32
  · simp [maskFormats, getLsbD_bit hk, hi]
  · have hout : mask.getLsbD i = false := BitVec.getLsbD_of_ge mask i (by omega)
    simp [maskFormats, hout]

lemma maskFormats_zero : maskFormats 0 = ∅ := by
  ext i
  simp [maskFormats]

lemma maskFormats_nonempty {mask : BitVec 32} : (maskFormats mask).Nonempty ↔ mask ≠ 0 := by
  constructor
  · rintro ⟨i, hi⟩ rfl
    simp [maskFormats] at hi
  · intro hne
    by_contra hempty
    apply hne
    apply BitVec.eq_of_getLsbD_eq
    intro i _
    by_contra hi
    have hbit : mask.getLsbD i = true := by simpa using hi
    exact hempty ⟨i, hbit⟩

/-- The scan after a list of entries. -/
def scanEntries (scan : FormatScan) (entries : List FormatEntry) : FormatScan :=
  entries.foldl (fun scan entry => scanFormat scan entry.sign entry.format) scan

lemma scanEntries_flags (scan : FormatScan) (entries : List FormatEntry) :
    ((scanEntries scan entries).set = true ↔ scan.set = true ∨ ∃ entry ∈ entries, entry.IsListed) ∧
      ((scanEntries scan entries).modify = true ↔ scan.modify = true ∨
        ∃ entry ∈ entries, ¬ entry.IsListed) := by
  induction entries generalizing scan with
  | nil => simp [scanEntries]
  | cons entry rest ih =>
    obtain ⟨hset, hmodify⟩ := ih (scanFormat scan entry.sign entry.format)
    have hstep : scanEntries scan (entry :: rest) =
      scanEntries (scanFormat scan entry.sign entry.format) rest := rfl
    rw [hstep, hset, hmodify]
    cases entry with
    | listed format => simp [scanFormat, FormatEntry.sign, FormatEntry.IsListed]
    | added format => simp [scanFormat, FormatEntry.sign, FormatEntry.IsListed]
    | removed format => simp [scanFormat, FormatEntry.sign, FormatEntry.IsListed]

/-- Without plain entries the modifications are made from left to right. -/
lemma scanEntries_modified (scan : FormatScan) (entries : List FormatEntry)
    (h : ∀ entry ∈ entries, ¬ entry.IsListed) :
    maskFormats (scanEntries scan entries).imask =
      entries.foldl FormatEntry.apply (maskFormats scan.imask) := by
  induction entries generalizing scan with
  | nil => rfl
  | cons entry rest ih =>
    have hrest := ih (scanFormat scan entry.sign entry.format) (fun e he => h e (by simp [he]))
    have hstep : maskFormats (scanFormat scan entry.sign entry.format).imask =
        FormatEntry.apply (maskFormats scan.imask) entry := by
      cases entry with
      | listed format => exact absurd ⟨format, rfl⟩ (h _ (by simp))
      | added format => exact maskFormats_or (formatBit_lt format) scan.imask
      | removed format => exact maskFormats_clear (formatBit_lt format) scan.imask
    rw [hstep] at hrest
    exact hrest

/-- Plain entries add to those that were listed before. -/
lemma scanEntries_listed (scan : FormatScan) (entries : List FormatEntry) (hset : scan.set = true)
    (h : ∀ entry ∈ entries, entry.IsListed) :
    maskFormats (scanEntries scan entries).imask =
      maskFormats scan.imask ∪ listedFormats entries := by
  induction entries generalizing scan with
  | nil =>
    ext i
    simp [scanEntries, listedFormats]
  | cons entry rest ih =>
    obtain ⟨format, rfl⟩ := h entry (by simp)
    have hstep : maskFormats (scanFormat scan none format).imask =
        insert (formatBit format) (maskFormats scan.imask) := by
      simp only [scanFormat, hset, if_true]
      exact maskFormats_or (formatBit_lt format) scan.imask
    have hrest := ih (scanFormat scan none format) rfl (fun e he => h e (by simp [he]))
    rw [hstep] at hrest
    refine hrest.trans ?_
    ext i
    simp only [listedFormats, Set.mem_union, Set.mem_insert_iff, Set.mem_ofPred_eq, List.mem_cons,
      FormatEntry.listed.injEq]
    constructor
    · rintro ((rfl | hi) | ⟨f, hf, rfl⟩)
      · exact .inr ⟨format, .inl rfl, rfl⟩
      · exact .inl hi
      · exact .inr ⟨f, .inr hf, rfl⟩
    · rintro (hi | ⟨f, rfl | hf, rfl⟩)
      · exact .inl (.inr hi)
      · exact .inl (.inl rfl)
      · exact .inr ⟨f, hf, rfl⟩

/-- The first plain entry discards the initial mask. -/
lemma scanEntries_fixed (mask : BitVec 32) (entries : List FormatEntry) (hne : entries ≠ [])
    (h : ∀ entry ∈ entries, entry.IsListed) :
    maskFormats (scanEntries { imask := mask } entries).imask = listedFormats entries := by
  cases entries with
  | nil => exact absurd rfl hne
  | cons entry rest =>
    have hrest : ∀ e ∈ rest, e.IsListed := fun e he => h e (by simp [he])
    obtain ⟨format, rfl⟩ := h entry (by simp)
    have hreset : scanEntries { imask := mask } (.listed format :: rest) =
        scanEntries { imask := 0, set := true } (.listed format :: rest) := rfl
    rw [hreset, scanEntries_listed _ _ rfl (by simpa [FormatEntry.IsListed] using hrest),
      maskFormats_zero,
      Set.empty_union]

/-- An unmixed list of entries gives the mask its meaning. -/
lemma scanEntries_meaning (mask : BitVec 32) (entries : List FormatEntry)
    (h : ¬ MixedEntries entries) :
    maskFormats (scanEntries { imask := mask } entries).imask =
      formatMeaning (maskFormats mask) entries := by
  by_cases hlisted : ∃ entry ∈ entries, entry.IsListed
  · have hall : ∀ entry ∈ entries, entry.IsListed := by
      intro entry hentry
      by_contra hno
      exact h ⟨hlisted, entry, hentry, hno⟩
    obtain ⟨entry, hentry, -⟩ := hlisted
    rw [scanEntries_fixed mask entries (List.ne_nil_of_mem hentry) hall]
    ext i
    have hsome : ∃ entry ∈ entries, entry.IsListed := ⟨entry, hentry, hall entry hentry⟩
    simp only [formatMeaning, Set.mem_ofPred_eq, hsome, true_and, not_true, false_and, or_false]
  · have hnone : ∀ entry ∈ entries, ¬ entry.IsListed :=
      fun entry hentry hyes => hlisted ⟨entry, hentry, hyes⟩
    rw [scanEntries_modified _ entries hnone]
    ext i
    simp only [formatMeaning, Set.mem_ofPred_eq, hlisted, false_and, not_false_iff,
      true_and, false_or]

end Masks

section Parsing

variable {mask : BitVec 32} {config : String}

lemma FormatEntry.text_injective : Function.Injective FormatEntry.text := by
  intro entry entry' h
  have hcut := congrArg cutFormatSign h
  rw [cutFormatSign_text, cutFormatSign_text] at hcut
  obtain ⟨hsign, hname⟩ := Prod.mk.inj hcut
  have hformat : entry.format = entry'.format :=
    Option.some.inj ((bundleFormatNamed_iff.mpr rfl).symm.trans (bundleFormatNamed_iff.mpr hname))
  cases entry <;> cases entry' <;> simp_all [FormatEntry.sign, FormatEntry.format]

lemma FormatText.unique {entries entries' : List FormatEntry} (h : FormatText config entries)
    (h' : FormatText config entries') : entries = entries' :=
  List.map_injective_iff.mpr FormatEntry.text_injective (h.symm.trans h')

lemma mixed_iff (mask : BitVec 32) (entries : List FormatEntry) :
    MixedEntries entries ↔ (scanEntries { imask := mask } entries).set = true ∧
      (scanEntries { imask := mask } entries).modify = true := by
  obtain ⟨hset, hmodify⟩ := scanEntries_flags { imask := mask } entries
  rw [hset, hmodify]
  simp [MixedEntries]

/-- The parser accepts exactly the unmixed lists of entries that leave a format. -/
lemma checkedFormats_cases (mask : BitVec 32) (config : String) :
    (∃ entries imask, FormatText config entries ∧ ¬ MixedEntries entries ∧
      checkedFormats mask config = .ok imask ∧
      maskFormats imask = formatMeaning (maskFormats mask) entries ∧ (maskFormats imask).Nonempty) ∨
    (∃ e, checkedFormats mask config = .error e) ∧ ∀ entries, FormatText config entries →
      MixedEntries entries ∨ formatMeaning (maskFormats mask) entries = ∅ := by
  rcases scanFormats_cases { imask := mask } (splitFields ' ' config) with ⟨entries, htext, hscan⟩
    | ⟨⟨e, he⟩, hno⟩
  · change scanFormats _ _ = .ok (scanEntries { imask := mask } entries) at hscan
    by_cases hmixed : MixedEntries entries
    · refine .inr ⟨?_, fun other hother => .inl ?_⟩
      · obtain ⟨hset, hmodify⟩ := (mixed_iff mask entries).mp hmixed
        cases hrun : checkedFormats mask config with
        | error e => exact ⟨e, rfl⟩
        | ok imask => simp [checkedFormats, hscan, Bind.bind, Except.bind, hset, hmodify] at hrun
      · rwa [FormatText.unique hother htext]
    · have hflags : ¬ ((scanEntries { imask := mask } entries).set = true ∧
          (scanEntries { imask := mask } entries).modify = true) :=
            fun h => hmixed ((mixed_iff mask entries).mpr h)
      have hmeaning := scanEntries_meaning mask entries hmixed
      by_cases hzero : (scanEntries { imask := mask } entries).imask = 0
      · refine .inr ⟨?_, fun other hother => .inr ?_⟩
        · cases hrun : checkedFormats mask config with
          | error e => exact ⟨e, rfl⟩
          | ok imask =>
            simp only [checkedFormats, hscan, Bind.bind, Except.bind] at hrun
            rw [if_neg hflags, if_pos hzero] at hrun
            exact absurd hrun (by simp)
        · rw [FormatText.unique hother htext, ← hmeaning, hzero, maskFormats_zero]
      · refine .inl ⟨entries, (scanEntries { imask := mask } entries).imask, htext, hmixed,
          ?_, hmeaning,
          maskFormats_nonempty.mpr hzero⟩
        simp only [checkedFormats, hscan, Bind.bind, Except.bind]
        rw [if_neg hflags, if_neg hzero]
        rfl
  · refine .inr ⟨⟨e, ?_⟩, fun entries hentries => absurd hentries (hno entries)⟩
    simp only [checkedFormats, he, Bind.bind, Except.bind]

/-- The parser succeeds exactly on the unmixed lists of entries that leave a format. The mask is
then what the entries mean, and after a failure what it was. -/
theorem parseBundleFormats_meaning (mask : BitVec 32) (config : String) :
    ((parseBundleFormats mask config).1 = .ok () ↔ ∃ entries, FormatText config entries ∧
      ¬ MixedEntries entries ∧
      (formatMeaning (maskFormats mask) entries).Nonempty) ∧
    ((parseBundleFormats mask config).1 = .ok () → ∀ entries, FormatText config entries →
      maskFormats (parseBundleFormats mask config).2 = formatMeaning (maskFormats mask) entries) ∧
    ((parseBundleFormats mask config).1 ≠ .ok () → (parseBundleFormats mask config).2 = mask) := by
  unfold parseBundleFormats
  rcases checkedFormats_cases mask config with ⟨entries, imask, htext, hmixed, hok, hmeaning,
    hsome⟩ | ⟨⟨e, he⟩, hno⟩
  · rw [hok]
    refine ⟨⟨fun _ => ⟨entries, htext, hmixed, hmeaning ▸ hsome⟩, fun _ => rfl⟩, ?_, fun h =>
      absurd rfl h⟩
    intro _ other hother
    rw [FormatText.unique hother htext]
    exact hmeaning
  · rw [he]
    refine ⟨⟨by simp, ?_⟩, by simp, fun _ => rfl⟩
    rintro ⟨entries, htext, hmixed, hsome⟩
    rcases hno entries htext with hbad | hempty
    · exact absurd hbad hmixed
    · rw [hempty] at hsome
      exact absurd hsome Set.not_nonempty_empty

/-- With the parsed mask a bundle is allowed when its format is meant; the format is not looked at
when a manifest says plain. -/
theorem checkAllowedBundleFormat_iff {ctx : BundleContext} {imask : BitVec 32}
    (hmask : ctx.bundleFormatsMask = imask.toNat) (manifest : Option RaucManifest) :
    checkAllowedBundleFormat ctx manifest = .ok () ↔
      (manifest = none → formatBit .plain ∈ maskFormats imask) ∧
        ∀ m, manifest = some m → m.bundleFormat ≠ .plain →
          formatBit m.bundleFormat ∈ maskFormats imask := by
  have hrequire : ∀ format, requireFormat ctx format = .ok () ↔
      formatBit format ∈ maskFormats imask := by
    intro format
    have hbit : formatAllowed ctx format = true ↔ formatBit format ∈ maskFormats imask := by
      rw [formatAllowed, hmask, BitVec.testBit_toNat]
      rfl
    rw [← hbit]
    unfold requireFormat
    split_ifs with hallowed
    · simp [hallowed]
    · simp [hallowed]
  cases manifest with
  | none => simp [checkAllowedBundleFormat, hrequire]
  | some m =>
    unfold checkAllowedBundleFormat
    by_cases hplain : m.bundleFormat = .plain
    · simp [hplain]
    · simp [hplain, hrequire]

end Parsing

end RaucUpdate
