import RaucUpdate.Library.TextFields

/-!
# Decimal numbers in a text

The value of a text of digits, how far a reader of digits gets, and how the order of the values
compares with the order of the texts.
-/

namespace RaucUpdate.Library

def AllDigits (s : List Char) : Prop := ∀ c ∈ s, c.isDigit = true

instance (s : List Char) : Decidable (AllDigits s) := List.decidableBAll _ s

def digitOf (c : Char) : Nat := c.toNat - 48

/-- The value of a text of digits behind digits that have been read. -/
def decimalFrom (acc : Nat) (s : List Char) : Nat := s.foldl (fun n c => n * 10 + digitOf c) acc

def decimalValue (s : List Char) : Nat := decimalFrom 0 s

section Reading

lemma isDigit_iff {c : Char} : c.isDigit = true ↔ 48 ≤ c.toNat ∧ c.toNat ≤ 57 := by
  simp only [Char.isDigit, Bool.and_eq_true, decide_eq_true_eq, UInt32.le_iff_toNat_le]
  rfl

lemma digitVal_of_isDigit {c : Char} (h : c.isDigit = true) : digitVal c = some (digitOf c) := by
  have hbounds : '0' ≤ c ∧ c ≤ '9' := isDigit_iff.mp h
  unfold digitVal
  rw [if_pos hbounds]
  rfl

lemma digit_lt {c : Char} (h : c.isDigit = true) : digitOf c < 10 := by
  have hbounds := isDigit_iff.mp h
  unfold digitOf
  omega

lemma not_digitVal_lt {c : Char} (h : c.isDigit = false) {d : Nat} (hd : digitVal c = some d) :
    ¬ d < 10 := by
  have hbounds : ¬ ('0' ≤ c ∧ c ≤ '9') := by
    intro hboth
    rw [isDigit_iff.mpr hboth] at h
    exact absurd h (by simp)
  unfold digitVal at hd
  rw [if_neg hbounds] at hd
  split_ifs at hd
  · obtain rfl := Option.some.inj hd
    omega
  · obtain rfl := Option.some.inj hd
    omega

/-- The digits in front are read, and the first other character stops the reader. -/
lemma takeDigits_digits {digits rest : List Char} (hdigits : AllDigits digits)
    (hrest : ∀ c ∈ rest.head?, c.isDigit = false) (acc : Nat) :
    takeDigits 10 acc (digits ++ rest) = (decimalFrom acc digits, rest) := by
  induction digits generalizing acc with
  | nil =>
    cases rest with
    | nil => rfl
    | cons c rest =>
      have hc := hrest c (by simp)
      simp only [List.nil_append, takeDigits, decimalFrom, List.foldl_nil]
      cases hd : digitVal c with
      | none => rfl
      | some d =>
        simp only
        rw [if_neg (not_digitVal_lt hc hd)]
  | cons c digits ih =>
    have hc : c.isDigit = true := hdigits c (by simp)
    simp only [List.cons_append, takeDigits, digitVal_of_isDigit hc]
    rw [if_pos (digit_lt hc)]
    exact ih (fun x hx => hdigits x (by simp [hx])) _

/-- Every text is digits followed by something else. -/
lemma digits_split (s : List Char) : ∃ digits rest, s = digits ++ rest ∧ AllDigits digits ∧
    ∀ c ∈ rest.head?, c.isDigit = false := by
  refine ⟨s.takeWhile Char.isDigit, s.dropWhile Char.isDigit, List.takeWhile_append_dropWhile.symm,
    ?_, ?_⟩
  · intro c hc
    exact List.mem_takeWhile_imp hc
  · intro c hc
    cases hdrop : s.dropWhile Char.isDigit with
    | nil => simp [hdrop] at hc
    | cons d rest =>
      have hhead := List.head_dropWhile_not Char.isDigit (l := s) (by simp [hdrop])
      simp only [hdrop, List.head_cons, List.head?_cons, Option.mem_some_iff] at hhead hc
      exact hc ▸ hhead

lemma takeDigits_eq_iff {s : List Char} {n : Nat} :
    takeDigits 10 0 s = (n, []) ↔ AllDigits s ∧ n = decimalValue s := by
  obtain ⟨digits, rest, rfl, hdigits, hrest⟩ := digits_split s
  rw [takeDigits_digits hdigits hrest]
  constructor
  · intro h
    obtain ⟨rfl, rfl⟩ := Prod.mk.inj h
    rw [List.append_nil]
    exact ⟨hdigits, rfl⟩
  · rintro ⟨hall, rfl⟩
    cases rest with
    | nil => rw [List.append_nil]; rfl
    | cons c rest =>
      have hdigit := hall c (by simp)
      rw [hrest c (by simp)] at hdigit
      exact absurd hdigit (by simp)

/-- A number that starts with a digit is read to its last digit. -/
lemma strtoull_digits {text : String} {digits suffix : List Char}
    (htext : text.toList = digits ++ suffix)
    (hne : digits ≠ []) (hdigits : AllDigits digits)
    (hsuffix : ∀ c ∈ suffix.head?, c.isDigit = false) :
    strtoull 10 text = ⟨min (decimalValue digits) (2 ^ 64 - 1), true, 2 ^ 64 ≤ decimalValue digits,
      suffix⟩ := by
  obtain ⟨c, rest, rfl⟩ := List.exists_cons_of_ne_nil hne
  have hc : c.isDigit = true := hdigits c (by simp)
  have hspace : isNumberSpace c = false := by
    cases hblank : isNumberSpace c with
    | false => rfl
    | true =>
      simp only [isNumberSpace, isBlank, Bool.or_eq_true, beq_iff_eq] at hblank
      rcases hblank with ((((rfl | rfl) | rfl) | rfl) | rfl) | rfl <;> simp at hc
  have hdrop : text.toList.dropWhile isNumberSpace = c :: rest ++ suffix := by
    rw [htext, List.cons_append, List.dropWhile_cons_of_neg (by simp [hspace])]
  have hsign : dropSign (c :: rest ++ suffix) = (false, c :: rest ++ suffix) := by
    unfold dropSign
    split
    · next h =>
      obtain ⟨rfl, -⟩ := List.cons.inj h
      simp at hc
    · next h =>
      obtain ⟨rfl, -⟩ := List.cons.inj h
      simp at hc
    · rfl
  have hletter : dropHexLetter 10 (c :: rest ++ suffix) = c :: rest ++ suffix := by
    unfold dropHexLetter
    split
    · next hbase _ => exact absurd hbase (by decide)
    · next hbase _ => exact absurd hbase (by decide)
    · rfl
  have hread := takeDigits_digits hdigits hsuffix 0
  have hlonger : suffix ≠ c :: rest ++ suffix := by
    intro h
    have hlen := congrArg List.length h
    simp at hlen
    omega
  unfold strtoull
  simp only [hdrop, hsign, hletter, hread]
  rw [if_neg hlonger]
  rfl

end Reading

section Formatted

lemma allDigits_formatNat (n : Nat) : AllDigits (formatNat 10 n).toList ∧
    decimalValue (formatNat 10 n).toList = n := by
  rw [formatNat, String.toList_ofList]
  have hread := takeDigits_eq_iff.mp (takeDigits_toDigits 10 (by omega) (by omega) n)
  exact ⟨hread.1, hread.2.symm⟩

lemma formatNat_ne_empty (n : Nat) : formatNat 10 n ≠ "" := by
  intro h
  have hlist := congrArg String.toList h
  rw [formatNat, String.toList_ofList] at hlist
  exact Nat.toDigits_ne_nil hlist

lemma not_mem_formatNat {c : Char} (hc : c.isDigit = false) (n : Nat) :
    c ∉ (formatNat 10 n).toList := by
  intro hmem
  rw [(allDigits_formatNat n).1 c hmem] at hc
  exact absurd hc (by simp)

lemma formatNat_injective : Function.Injective (formatNat 10) := by
  intro m n h
  rw [← (allDigits_formatNat m).2, h, (allDigits_formatNat n).2]

end Formatted

section Values

lemma decimalFrom_eq (acc : Nat) (s : List Char) :
    decimalFrom acc s = acc * 10 ^ s.length + decimalValue s := by
  unfold decimalValue
  induction s generalizing acc with
  | nil => simp [decimalFrom]
  | cons c rest ih =>
    simp only [decimalFrom, List.foldl_cons, List.length_cons] at ih ⊢
    rw [ih (acc * 10 + digitOf c), ih (0 * 10 + digitOf c), pow_succ]
    ring

lemma decimalValue_cons (c : Char) (s : List Char) :
    decimalValue (c :: s) = digitOf c * 10 ^ s.length + decimalValue s := by
  change decimalFrom (0 * 10 + digitOf c) s = _
  rw [decimalFrom_eq, zero_mul, zero_add]

lemma decimalValue_lt {s : List Char} (h : AllDigits s) : decimalValue s < 10 ^ s.length := by
  induction s with
  | nil => simp [decimalValue, decimalFrom]
  | cons c rest ih =>
    have hrest := ih (fun x hx => h x (by simp [hx]))
    have hc := digit_lt (h c (by simp))
    rw [decimalValue_cons, List.length_cons, pow_succ]
    have hle : digitOf c * 10 ^ rest.length ≤ 9 * 10 ^ rest.length :=
      Nat.mul_le_mul_right _ (by omega)
    omega

/-- A text that does not start with a zero has the value of its length at least. -/
lemma le_decimalValue {c : Char} {s : List Char} (hc : c.isDigit = true) (hne : c ≠ '0') :
    10 ^ s.length ≤ decimalValue (c :: s) := by
  have hpos : 1 ≤ digitOf c := by
    have hbounds := isDigit_iff.mp hc
    have hneq : c.toNat ≠ 48 := fun h => hne (Char.toNat_inj.mp h)
    unfold digitOf
    omega
  rw [decimalValue_cons]
  have hle : 1 * 10 ^ s.length ≤ digitOf c * 10 ^ s.length := Nat.mul_le_mul_right _ hpos
  omega

/-- Of two texts of the same length the one with the smaller value comes first. -/
lemma decimalValue_lt_iff {s t : List Char} (hs : AllDigits s) (ht : AllDigits t)
    (hlen : s.length = t.length) :
    decimalValue s < decimalValue t ↔ s < t := by
  induction s generalizing t with
  | nil =>
    obtain rfl := List.length_eq_zero_iff.mp hlen.symm
    simp
  | cons c s ih =>
    cases t with
    | nil => simp at hlen
    | cons d t =>
      have hlen' : s.length = t.length := by simpa using hlen
      have hs' : AllDigits s := fun x hx => hs x (by simp [hx])
      have ht' : AllDigits t := fun x hx => ht x (by simp [hx])
      have hsmall := decimalValue_lt hs'
      have htsmall := decimalValue_lt ht'
      have hc := isDigit_iff.mp (hs c (by simp))
      have hd := isDigit_iff.mp (ht d (by simp))
      rw [List.cons_lt_cons_iff, decimalValue_cons, decimalValue_cons, hlen', ← ih hs' ht' hlen']
      rw [hlen'] at hsmall
      rcases lt_trichotomy c.toNat d.toNat with hlt | heq | hgt
      · have hstep : (digitOf c + 1) * 10 ^ t.length ≤ digitOf d * 10 ^ t.length :=
          Nat.mul_le_mul_right _ (by unfold digitOf; omega)
        rw [Nat.add_mul, one_mul] at hstep
        have hcd : c < d := hlt
        simp only [hcd, true_or, iff_true]
        omega
      · obtain rfl := Char.toNat_inj.mp heq
        simp
      · have hstep : (digitOf d + 1) * 10 ^ t.length ≤ digitOf c * 10 ^ t.length :=
          Nat.mul_le_mul_right _ (by unfold digitOf; omega)
        rw [Nat.add_mul, one_mul] at hstep
        have hdc : d < c := hgt
        have hnot : ¬ c < d := Nat.lt_asymm hgt
        have hne : c ≠ d := fun h => absurd (h ▸ hgt) (Nat.lt_irrefl _)
        simp only [hnot, hne, false_and, or_false, iff_false]
        omega

end Values

end RaucUpdate.Library
