import RaucUpdate.Library.SemanticVersions
import RaucUpdate.Model.InstallBundle

namespace RaucUpdate

open Library

section Ranks

/-- A field of a pre-release counts as a number when it fits into 64 bits, and as a text
otherwise. -/
def fieldRank (field : String) : Nat ⊕ₗ String :=
  match (asciiStringToUnsigned field).toOption with
  | some n => toLex (.inl n)
  | none => toLex (.inr field)

def preReleaseRank : Option String → WithTop (List (Nat ⊕ₗ String))
  | none => ⊤
  | some text => ↑((splitFields '.' text).map fieldRank)

def SemVer.rank (v : SemVer) : Precedence :=
  toLex (coreRank v.major v.minor v.patch, preReleaseRank v.preRelease)

lemma fieldRank_number {field : String} {n : Nat}
    (h : (asciiStringToUnsigned field).toOption = some n) :
    fieldRank field = toLex (.inl n) := by
  simp [fieldRank, h]

lemma fieldRank_text {field : String} (h : (asciiStringToUnsigned field).toOption = none) :
    fieldRank field = toLex (.inr field) := by
  simp [fieldRank, h]

lemma comparePreFields_iff (as bs : List String) :
    comparePreFields as bs = true ↔ as.map fieldRank ≤ bs.map fieldRank := by
  induction as generalizing bs with
  | nil => simp [comparePreFields, nil_le]
  | cons a as ih =>
    cases bs with
    | nil =>
      have hlt : [] < fieldRank a :: as.map fieldRank := List.Lex.nil
      simp [comparePreFields, hlt]
    | cons b bs =>
      rw [List.map_cons, List.map_cons, cons_le_cons_iff]
      unfold comparePreFields
      rcases Option.eq_none_or_eq_some (asciiStringToUnsigned a).toOption with hm | ⟨m, hm⟩
      · rcases Option.eq_none_or_eq_some (asciiStringToUnsigned b).toOption with hn | ⟨n, hn⟩
        · rw [fieldRank_text hm, fieldRank_text hn, Sum.Lex.inr_lt_inr_iff]
          simp only [hm, hn]
          rcases lt_trichotomy a b with hlt | rfl | hgt
          · simp [hlt]
          · simpa using ih bs
          · simp [hgt, hgt.not_gt, hgt.ne']
        · simp [hm, hn, fieldRank_text hm, fieldRank_number hn]
      · rcases Option.eq_none_or_eq_some (asciiStringToUnsigned b).toOption with hn | ⟨n, hn⟩
        · simp [hm, hn, fieldRank_number hm, fieldRank_text hn]
        · rw [fieldRank_number hm, fieldRank_number hn, Sum.Lex.inl_lt_inl_iff]
          simp only [hm, hn]
          rcases lt_trichotomy m n with hlt | rfl | hgt
          · simp [hlt]
          · simpa using ih bs
          · simp [hgt, hgt.not_gt, hgt.ne']

lemma comparePreRelease_iff (a b : Option String) :
    comparePreRelease a b = true ↔ preReleaseRank a ≤ preReleaseRank b := by
  cases a with
  | none =>
    cases b with
    | none => simp [comparePreRelease]
    | some b => simp [comparePreRelease, preReleaseRank]
  | some a =>
    cases b with
    | none => simp [comparePreRelease, preReleaseRank]
    | some b => simp [comparePreRelease, preReleaseRank, comparePreFields_iff]

/-- The comparison in stages is the comparison of the ranks. -/
lemma lessEqual_iff (a b : SemVer) : a.lessEqual b = true ↔ a.rank ≤ b.rank := by
  unfold SemVer.lessEqual SemVer.rank coreRank
  simp only [compareCore, Prod.Lex.toLex_le_toLex, Prod.Lex.toLex_lt_toLex, ← comparePreRelease_iff]
  rcases lt_trichotomy a.major b.major with hlt | heq | hgt
  · simp [hlt]
  · rcases lt_trichotomy a.minor b.minor with hlt' | heq' | hgt'
    · simp [heq, hlt']
    · rcases lt_trichotomy a.patch b.patch with hlt'' | heq'' | hgt''
      · simp [heq, heq', hlt'']
      · simp [heq, heq', heq'']
      · simp [heq, heq', hgt'', hgt''.not_gt, hgt''.ne']
    · simp [heq, hgt', hgt'.not_gt, hgt'.ne']
  · simp [hgt, hgt.not_gt, hgt.ne']

lemma rSemverLessEqual_of_parsed {versionA versionB : String} {a b : SemVer}
    (ha : rSemverParse versionA = .ok a)
    (hb : rSemverParse versionB = .ok b) : rSemverLessEqual versionA versionB =
      .ok (a.lessEqual b) := by
  unfold rSemverLessEqual parseForComparison
  rw [ha, hb]
  rfl

lemma rSemverLessEqual_true_iff {versionA versionB : String} {a b : SemVer}
    (ha : rSemverParse versionA = .ok a)
    (hb : rSemverParse versionB = .ok b) : rSemverLessEqual versionA versionB = .ok true ↔
      a.rank ≤ b.rank := by
  rw [rSemverLessEqual_of_parsed ha hb, ← lessEqual_iff]
  simp

end Ranks

section Parsing

lemma cutAtLast_found (sep : Char) (a b : String) (h : sep ∉ b.toList) :
    cutAtLast sep (a ++ String.singleton sep ++ b) = (a, some b) := by
  have hb : ∀ c ∈ b.toList, (c != sep) = true := by
    intro c hc
    simp only [bne_iff_ne, ne_eq]
    rintro rfl
    exact h hc
  have hlist : (a ++ String.singleton sep ++ b).toList = (a.toList ++ [sep]) ++ b.toList := by
    simp [String.toList_append]
  have htake : ((a.toList ++ [sep]) ++ b.toList).rtakeWhile (· != sep) = b.toList := by
    unfold List.rtakeWhile
    rw [List.reverse_append, List.takeWhile_append_of_pos (by simpa using hb)]
    simp
  have hdrop : ((a.toList ++ [sep]) ++ b.toList).rdropWhile (· != sep) = a.toList ++ [sep] := by
    unfold List.rdropWhile
    rw [List.reverse_append, List.dropWhile_append_of_pos (by simpa using hb)]
    simp
  unfold cutAtLast
  rw [hlist, if_pos (by simp), hdrop, htake]
  simp

lemma cutAtLast_absent (sep : Char) (s : String) (h : sep ∉ s.toList) :
    cutAtLast sep s = (s, none) := by
  unfold cutAtLast
  rw [if_neg h]

lemma rSemverParse_ok_iff {version : String} {v : SemVer} :
    rSemverParse version = .ok v ↔ ∃ numbers,
      splitAtMost '.' 3 (cutAtLast '-' (cutAtLast '+' version).1).1 ≠ [] ∧
      (splitAtMost '.' 3 (cutAtLast '-' (cutAtLast '+' version).1).1).mapM parseCoreComponent =
        .ok numbers ∧
      v = ⟨numbers.getD 0 0, numbers.getD 1 0, numbers.getD 2 0,
        (cutAtLast '-' (cutAtLast '+' version).1).2,
        (cutAtLast '+' version).2⟩ := by
  unfold rSemverParse
  by_cases hparts : splitAtMost '.' 3 (cutAtLast '-' (cutAtLast '+' version).1).1 = []
  · simp [hparts]
  · simp only [hparts, if_false, ne_eq, not_false_iff, true_and]
    cases hnumbers : (splitAtMost '.' 3 (cutAtLast '-' (cutAtLast '+' version).1).1).mapM
      parseCoreComponent with
    | error e => simp [Bind.bind, Except.bind]
    | ok numbers =>
      simp only [Bind.bind, Except.bind, Pure.pure, Except.pure, Except.ok.injEq, exists_eq_left']
      exact eq_comm

/-- The strings that the parser accepts. -/
def AcceptedVersion (version : String) : Prop := ∃ v, rSemverParse version = .ok v

/-- Two strings that differ at most in what stands behind the last plus. -/
inductive SameButBuild : String → String → Prop where
  | replaced (rest build build' : String) (h : '+' ∉ build.toList) (h' : '+' ∉ build'.toList) :
    SameButBuild (rest ++ String.singleton '+' ++ build) (rest ++ String.singleton '+' ++ build')
  | dropped (rest build : String) (h : '+' ∉ build.toList) (hrest : '+' ∉ rest.toList) :
    SameButBuild (rest ++ String.singleton '+' ++ build) rest

lemma SameButBuild.parse {version version' : String} (h : SameButBuild version version')
    {v : SemVer}
    (hv : rSemverParse version = .ok v) : ∃ build, rSemverParse version' =
      .ok { v with build } := by
  rw [rSemverParse_ok_iff] at hv
  obtain ⟨numbers, hparts, hnumbers, rfl⟩ := hv
  cases h with
  | replaced rest build build' h h' =>
    rw [cutAtLast_found '+' rest build h] at hparts hnumbers ⊢
    refine ⟨some build', rSemverParse_ok_iff.mpr ⟨numbers, ?_⟩⟩
    rw [cutAtLast_found '+' rest build' h']
    exact ⟨hparts, hnumbers, rfl⟩
  | dropped rest build h hrest =>
    rw [cutAtLast_found '+' version' build h] at hparts hnumbers ⊢
    refine ⟨none, rSemverParse_ok_iff.mpr ⟨numbers, ?_⟩⟩
    rw [cutAtLast_absent '+' version' hrest]
    exact ⟨hparts, hnumbers, rfl⟩

end Parsing

section Preorder

/-- On the accepted versions the comparison is a total preorder that does not see the build. -/
theorem rSemverLessEqual_totalPreorder {a b c : String} (ha : AcceptedVersion a)
    (hb : AcceptedVersion b)
    (hc : AcceptedVersion c) :
    rSemverLessEqual a a = .ok true ∧
    (rSemverLessEqual a b = .ok true → rSemverLessEqual b c = .ok true →
      rSemverLessEqual a c = .ok true) ∧
    (rSemverLessEqual a b = .ok true ∨ rSemverLessEqual b a = .ok true) ∧
    ∀ a', SameButBuild a a' → rSemverLessEqual a' b = rSemverLessEqual a b ∧
      rSemverLessEqual b a' = rSemverLessEqual b a := by
  obtain ⟨va, hva⟩ := ha
  obtain ⟨vb, hvb⟩ := hb
  obtain ⟨vc, hvc⟩ := hc
  rw [rSemverLessEqual_true_iff hva hva, rSemverLessEqual_true_iff hva hvb,
    rSemverLessEqual_true_iff hvb hvc,
    rSemverLessEqual_true_iff hva hvc, rSemverLessEqual_true_iff hvb hva]
  refine ⟨le_refl _, fun hab hbc => le_trans hab hbc, le_total _ _, ?_⟩
  intro a' hsame
  obtain ⟨build, ha'⟩ := hsame.parse hva
  constructor
  · rw [rSemverLessEqual_of_parsed ha' hvb, rSemverLessEqual_of_parsed hva hvb]
    rfl
  · rw [rSemverLessEqual_of_parsed hvb ha', rSemverLessEqual_of_parsed hvb hva]
    rfl

/-- A short version, a pre-release with an empty field and an overlong number, and a build. -/
theorem rSemverLessEqual_totalPreorder_odd :
    AcceptedVersion "1.2" ∧ AcceptedVersion "1.2-a..99999999999999999999" ∧
      AcceptedVersion "1.2-a.b+c" ∧
      (rSemverLessEqual "1.2" "1.2-a..99999999999999999999" = .ok true ∨
        rSemverLessEqual "1.2-a..99999999999999999999" "1.2" = .ok true) := by
  have hshort : AcceptedVersion "1.2" := ⟨⟨1, 2, 0, none, none⟩, by decide +kernel⟩
  have hodd : AcceptedVersion "1.2-a..99999999999999999999" :=
    ⟨⟨1, 2, 0, some "a..99999999999999999999", none⟩, by decide +kernel⟩
  have hbuild : AcceptedVersion "1.2-a.b+c" := ⟨⟨1, 2, 0, some "a.b", some "c"⟩, by decide +kernel⟩
  exact ⟨hshort, hodd, hbuild, (rSemverLessEqual_totalPreorder hshort hodd hbuild).2.2.1⟩

end Preorder

section Misreading

lemma asciiStringToUnsigned_ok_iff {str : String} {n : Nat} :
    asciiStringToUnsigned str = .ok n ↔
      str ≠ "" ∧ AllDigits str.toList ∧ n = decimalValue str.toList ∧ n < 2 ^ 64 := by
  unfold asciiStringToUnsigned
  by_cases hempty : str = ""
  · simp [hempty]
  · by_cases hrest : (takeDigits 10 0 str.toList).2 = []
    · obtain ⟨hdigits, hvalue⟩ :=
        takeDigits_eq_iff.mp (Prod.ext rfl hrest : takeDigits 10 0 str.toList = (_, []))
      simp only [hempty, hrest, hvalue, if_false, not_true, ne_eq, not_false_iff, true_and, hdigits]
      by_cases hlarge : 2 ^ 64 ≤ decimalValue str.toList
      · rw [if_pos hlarge]
        simp only [reduceCtorEq, false_iff, not_and]
        rintro rfl
        omega
      · rw [if_neg hlarge, Except.ok.injEq]
        constructor
        · rintro rfl
          exact ⟨rfl, by omega⟩
        · rintro ⟨rfl, -⟩
          rfl
    · have hdigits : ¬ AllDigits str.toList := by
        intro hall
        exact hrest (congrArg Prod.snd (takeDigits_eq_iff.mpr ⟨hall, rfl⟩))
      simp [hempty, hrest, hdigits]

/-- A number that does not fit into 64 bits. -/
def LongNumber (s : String) : Prop := AllDigits s.toList ∧ 2 ^ 64 ≤ decimalValue s.toList

/-- The number `a` is compared as a text and comes behind `b`, where its value puts it in front. -/
def Misread (a b : String) : Prop :=
  LongNumber a ∧ b < a ∧ (¬ AllDigits b.toList ∨ LongNumber b ∧ a.length < b.length)

lemma fieldRank_long {s : String} (h : LongNumber s) : fieldRank s = toLex (.inr s) := by
  apply fieldRank_text
  cases hs : asciiStringToUnsigned s with
  | error e => rfl
  | ok n =>
    obtain ⟨-, -, rfl, hlt⟩ := asciiStringToUnsigned_ok_iff.mp hs
    exact absurd h.2 (by omega)

lemma fieldRank_short {s : String} (hne : s ≠ "") (h : ¬ LongNumber s) :
    fieldRank s = identifierRank s := by
  unfold identifierRank
  split_ifs with hdigits
  · have hsmall : decimalValue s.toList < 2 ^ 64 := by
      by_contra hlarge
      exact h ⟨hdigits, by omega⟩
    exact fieldRank_number
      (by rw [asciiStringToUnsigned_ok_iff.mpr ⟨hne, hdigits, rfl, hsmall⟩]; rfl)
  · apply fieldRank_text
    cases hs : asciiStringToUnsigned s with
    | error e => rfl
    | ok n => exact absurd (asciiStringToUnsigned_ok_iff.mp hs).2.1 hdigits

variable {a b : String} (ha : IsPreReleaseIdentifier a) (hb : IsPreReleaseIdentifier b)
include ha hb

lemma fieldRank_ne (h : a ≠ b) : fieldRank a ≠ fieldRank b := by
  intro hrank
  by_cases hlong : LongNumber a
  · by_cases hlong' : LongNumber b
    · rw [fieldRank_long hlong, fieldRank_long hlong'] at hrank
      exact h (by simpa using hrank)
    · rw [fieldRank_long hlong, fieldRank_short hb.1.1 hlong'] at hrank
      unfold identifierRank at hrank
      split_ifs at hrank
      · simp at hrank
      · exact h (by simpa using hrank)
  · by_cases hlong' : LongNumber b
    · rw [fieldRank_short ha.1.1 hlong, fieldRank_long hlong'] at hrank
      unfold identifierRank at hrank
      split_ifs at hrank
      · simp at hrank
      · exact h (by simpa using hrank)
    · rw [fieldRank_short ha.1.1 hlong, fieldRank_short hb.1.1 hlong'] at hrank
      exact identifierRank_ne ha hb h hrank

/-- Two long numbers are compared as texts. -/
lemma long_order_iff (hlong : LongNumber a) (hlong' : LongNumber b) (h : a ≠ b) :
    (a < b ↔ decimalValue a.toList < decimalValue b.toList) ↔ ¬ (Misread a b ∨ Misread b a) := by
  have horder : a < b ∨ b < a := lt_or_gt_of_ne h
  rcases Nat.lt_trichotomy a.length b.length with hlt | heq | hgt
  · have hvalue := value_lt_of_length_lt hlong.1 hb hlong'.1 ha.1.1 hlt
    have hnot : ¬ b.length < a.length := by omega
    have hab : ¬ b < a ↔ a < b := by
      rw [not_lt]
      exact ⟨fun hle => lt_of_le_of_ne hle h, le_of_lt⟩
    simp [Misread, hlong, hlong', hlong'.1, hlong.1, hlt, hnot, hvalue, hab, -String.lt_iff_ltb]
  · have hvalue := decimalValue_lt_iff hlong.1 hlong'.1
      (by rw [String.length_toList, String.length_toList, heq])
    rw [← String.lt_iff] at hvalue
    simp [Misread, hlong, hlong', hlong'.1, hlong.1, heq, hvalue]
  · have hvalue := value_lt_of_length_lt hlong'.1 ha hlong.1 hb.1.1 hgt
    have hnot : ¬ a.length < b.length := by omega
    have hnot' : ¬ decimalValue a.toList < decimalValue b.toList := by omega
    simp [Misread, hlong, hlong', hlong'.1, hlong.1, hgt, hnot, hnot']

/-- The fields are ordered as the identifiers are, unless a long number is misread. -/
lemma fieldRank_lt_iff (h : a ≠ b) :
    (fieldRank a < fieldRank b ↔ identifierRank a < identifierRank b) ↔
      ¬ (Misread a b ∨ Misread b a) := by
  have hab : ¬ b < a ↔ a < b := by
    rw [not_lt]
    exact ⟨fun hle => lt_of_le_of_ne hle h, le_of_lt⟩
  by_cases hlong : LongNumber a
  · by_cases hlong' : LongNumber b
    · rw [fieldRank_long hlong, fieldRank_long hlong', ← long_order_iff ha hb hlong hlong' h]
      simp [identifierRank, hlong.1, hlong'.1]
    · rw [fieldRank_long hlong, fieldRank_short hb.1.1 hlong']
      by_cases hdigits : AllDigits b.toList
      · have hsmall : ¬ decimalValue a.toList < decimalValue b.toList := by
          intro hlt
          exact hlong' ⟨hdigits, by have := hlong.2; omega⟩
        simp [identifierRank, Misread, hlong.1, hlong', hdigits, hsmall]
      · simp [identifierRank, Misread, hlong, hlong.1, hlong', hdigits, hab, -String.lt_iff_ltb]
  · by_cases hlong' : LongNumber b
    · rw [fieldRank_short ha.1.1 hlong, fieldRank_long hlong']
      by_cases hdigits : AllDigits a.toList
      · have hsmall : decimalValue a.toList < decimalValue b.toList := by
          by_contra hle
          exact hlong ⟨hdigits, by have := hlong'.2; omega⟩
        simp [identifierRank, Misread, hlong, hlong'.1, hdigits, hsmall]
      · simp [identifierRank, Misread, hlong, hlong', hlong'.1, hdigits]
    · rw [fieldRank_short ha.1.1 hlong, fieldRank_short hb.1.1 hlong']
      simp [Misread, hlong, hlong']

end Misreading

section Texts

lemma exists_of_mapM_ok {α β ε : Type} {f : α → Except ε β} {l : List α} {results : List β}
    (h : l.mapM f = .ok results) {x : α} (hx : x ∈ l) : ∃ y, f x = .ok y := by
  induction l generalizing results with
  | nil => simp at hx
  | cons a rest ih =>
    rw [List.mapM_cons] at h
    cases ha : f a with
    | error e => simp [ha, Bind.bind, Except.bind] at h
    | ok y =>
      cases hrest : rest.mapM f with
      | error e => simp [ha, hrest, Bind.bind, Except.bind] at h
      | ok ys =>
        rcases List.mem_cons.mp hx with rfl | hx
        · exact ⟨y, ha⟩
        · exact ih hrest hx

lemma parseCoreComponent_formatNat {n : Nat} (h : n < 2 ^ 64) :
    parseCoreComponent (formatNat 10 n) = .ok n := by
  obtain ⟨hdigits, hvalue⟩ := allDigits_formatNat n
  unfold parseCoreComponent
  rw [asciiStringToUnsigned_ok_iff.mpr ⟨formatNat_ne_empty n, hdigits, hvalue.symm, h⟩]

lemma parseCoreComponent_error {part : String} {c : Char} (hmem : c ∈ part.toList)
    (hc : c.isDigit = false) (n : Nat) :
    parseCoreComponent part ≠ .ok n := by
  intro h
  unfold parseCoreComponent at h
  cases hpart : asciiStringToUnsigned part with
  | error e => simp [hpart] at h
  | ok m =>
    have hdigit := (asciiStringToUnsigned_ok_iff.mp hpart).2.1 c hmem
    rw [hc] at hdigit
    exact absurd hdigit (by simp)

lemma core_eq (v : Version) : v.core = formatNat 10 v.major ++ String.singleton '.' ++
    (formatNat 10 v.minor ++ String.singleton '.' ++ formatNat 10 v.patch) := by
  unfold Version.core
  rw [joinFields_cons, joinFields_cons, joinFields_singleton]

lemma not_mem_core {c : Char} (hc : c.isDigit = false) (hdot : c ≠ '.') (v : Version) :
    c ∉ v.core.toList := by
  intro hmem
  rcases mem_joinFields hmem with rfl | ⟨f, hf, hin⟩
  · exact hdot rfl
  · simp only [List.mem_cons, List.not_mem_nil, or_false] at hf
    rcases hf with rfl | rfl | rfl
    · exact not_mem_formatNat hc _ hin
    · exact not_mem_formatNat hc _ hin
    · exact not_mem_formatNat hc _ hin

lemma not_mem_joined {identifiers : List String} (h : ∀ s ∈ identifiers, IsBuildIdentifier s) :
    '+' ∉ (joinFields '.' identifiers).toList := by
  intro hmem
  rcases mem_joinFields hmem with heq | ⟨s, hs, hin⟩
  · exact absurd heq (by decide)
  · exact (isIdentifierChar_ne ((h s hs).2 '+' hin)).2 rfl

lemma not_mem_front (v : Version) : '+' ∉ v.front.toList := by
  unfold Version.front versionPart
  rw [String.toList_append, List.mem_append, not_or]
  refine ⟨not_mem_core (by decide) (by decide) v, ?_⟩
  split_ifs with hnil
  · simp
  · rw [String.toList_append, List.mem_append, not_or]
    exact ⟨by simp, not_mem_joined (fun s hs => (v.preRelease_valid s hs).1)⟩

lemma cutAtLast_text (v : Version) :
    cutAtLast '+' v.text = (v.front, if v.build =
      [] then none else some (joinFields '.' v.build)) := by
  unfold Version.text versionPart
  by_cases hnil : v.build = []
  · rw [if_pos hnil, if_pos hnil, String.append_empty]
    exact cutAtLast_absent '+' v.front (not_mem_front v)
  · rw [if_neg hnil, if_neg hnil, ← String.append_assoc]
    exact cutAtLast_found '+' v.front _ (not_mem_joined v.build_valid)

/-- The pre-release of the version holds no hyphen. -/
def HyphenFree (v : Version) : Prop := ∀ s ∈ v.preRelease, '-' ∉ s.toList

def Fits (v : Version) : Prop := v.major < 2 ^ 64 ∧ v.minor < 2 ^ 64 ∧ v.patch < 2 ^ 64

lemma joined_hyphenFree {v : Version} (h : HyphenFree v) :
    '-' ∉ (joinFields '.' v.preRelease).toList := by
  intro hmem
  rcases mem_joinFields hmem with heq | ⟨s, hs, hin⟩
  · exact absurd heq (by decide)
  · exact h s hs hin

lemma rSemverParse_text {v : Version} (hfits : Fits v) (hfree : HyphenFree v) :
    rSemverParse v.text = .ok ⟨v.major, v.minor, v.patch,
      if v.preRelease = [] then none else some (joinFields '.' v.preRelease),
      if v.build = [] then none else some (joinFields '.' v.build)⟩ := by
  have hcut : cutAtLast '-' v.front =
      (v.core, if v.preRelease = [] then none else some (joinFields '.' v.preRelease)) := by
    unfold Version.front versionPart
    by_cases hnil : v.preRelease = []
    · rw [if_pos hnil, if_pos hnil, String.append_empty]
      exact cutAtLast_absent '-' v.core (not_mem_core (by decide) (by decide) v)
    · rw [if_neg hnil, if_neg hnil, ← String.append_assoc]
      exact cutAtLast_found '-' v.core _ (joined_hyphenFree hfree)
  have hparts : splitAtMost '.' 3 v.core =
      [formatNat 10 v.major, formatNat 10 v.minor, formatNat 10 v.patch] := by
    rw [core_eq]
    exact splitAtMost_three '.' _ _ _ (not_mem_formatNat (by decide) _)
      (not_mem_formatNat (by decide) _)
  rw [rSemverParse_ok_iff, cutAtLast_text, hcut, hparts]
  refine ⟨[v.major, v.minor, v.patch], by simp, ?_, rfl⟩
  simp only [List.mapM_cons, List.mapM_nil, parseCoreComponent_formatNat hfits.1,
    parseCoreComponent_formatNat hfits.2.1, parseCoreComponent_formatNat hfits.2.2]
  rfl

/-- A hyphen in the pre-release cuts the version in the wrong place, and the core is no number. -/
lemma not_accepted_text {v : Version} (hhyphen : ¬ HyphenFree v) : ¬ AcceptedVersion v.text := by
  simp only [HyphenFree, not_forall, not_not] at hhyphen
  obtain ⟨s, hs, hin⟩ := hhyphen
  have hnil : v.preRelease ≠ [] := List.ne_nil_of_mem hs
  obtain ⟨front, back, hjoined, hback⟩ := exists_last_separator (mem_joinFields_of_mem hs hin)
  have hcut : cutAtLast '-' v.front = (v.core ++ String.singleton '-' ++ front, some back) := by
    unfold Version.front versionPart
    rw [if_neg hnil, hjoined, ← cutAtLast_found '-' (v.core ++ String.singleton '-' ++ front) back
      hback]
    simp only [String.append_assoc]
  have hparts : splitAtMost '.' 3 (v.core ++ String.singleton '-' ++ front) =
      [formatNat 10 v.major, formatNat 10 v.minor, formatNat 10 v.patch ++ String.singleton '-' ++
        front] := by
    rw [core_eq]
    rw [← splitAtMost_three '.' _ _ _ (not_mem_formatNat (by decide) v.major)
      (not_mem_formatNat (by decide) v.minor)]
    simp only [String.append_assoc]
  rintro ⟨parsed, hparsed⟩
  rw [rSemverParse_ok_iff, cutAtLast_text, hcut, hparts] at hparsed
  obtain ⟨numbers, -, hnumbers, -⟩ := hparsed
  obtain ⟨n, hn⟩ :=
    exists_of_mapM_ok hnumbers (List.mem_cons_of_mem _
    (List.mem_cons_of_mem _ (List.mem_singleton_self _)))
  have hmem : '-' ∈ (formatNat 10 v.patch ++ String.singleton '-' ++ front).toList := by simp
  exact parseCoreComponent_error hmem (by decide) n hn

end Texts

section Agreement

lemma not_mem_preRelease {v : Version} {s : String} (h : s ∈ v.preRelease) : '.' ∉ s.toList := by
  intro hmem
  exact (isIdentifierChar_ne ((v.preRelease_valid s h).1.2 '.' hmem)).1 rfl

lemma joined_ne_empty {v : Version} (h : v.preRelease ≠ []) : joinFields '.' v.preRelease ≠ "" := by
  obtain ⟨s, hs⟩ := List.exists_mem_of_ne_nil _ h
  have hne : s.toList ≠ [] := by simpa using (v.preRelease_valid s hs).1.1
  obtain ⟨c, hc⟩ := List.exists_mem_of_ne_nil _ hne
  have hmem : c ∈ (joinFields '.' v.preRelease).toList := mem_joinFields_of_mem hs hc
  intro hempty
  rw [hempty] at hmem
  simp at hmem

/-- What is parsed from the text of a version has the rank of the version under the ranks of the
fields. -/
lemma rank_parsed (v : Version) (build : Option String) :
    SemVer.rank ⟨v.major, v.minor, v.patch, if v.preRelease =
      [] then none else some (joinFields '.' v.preRelease),
      build⟩ = v.rankBy fieldRank := by
  unfold SemVer.rank Version.rankBy
  by_cases hnil : v.preRelease = []
  · simp [hnil, preReleaseRank]
  · have hsplit := splitFields_joinFields '.' v.preRelease (fun s hs => not_mem_preRelease hs)
      (joined_ne_empty hnil)
    simp [hnil, preReleaseRank, hsplit]

lemma hyphenFree_of_agrees {a b : Version} {r : Bool} (h : rSemverLessEqual a.text b.text = .ok r) :
    HyphenFree a ∧ HyphenFree b := by
  unfold rSemverLessEqual parseForComparison at h
  constructor
  · by_contra hhyphen
    cases hparsed : rSemverParse a.text with
    | error e => simp [hparsed, Bind.bind, Except.bind] at h
    | ok v => exact not_accepted_text hhyphen ⟨v, hparsed⟩
  · by_contra hhyphen
    cases hparsed : rSemverParse b.text with
    | error e =>
      cases hparsed' : rSemverParse a.text with
      | error e' => simp [hparsed', Bind.bind, Except.bind] at h
      | ok v => simp [hparsed, hparsed', Bind.bind, Except.bind] at h
    | ok v => exact not_accepted_text hhyphen ⟨v, hparsed⟩

/-- The comparison of two texts follows the precedence of the versions when their first different
identifiers are not misread. -/
lemma rSemverLessEqual_text_iff {a b : Version} (hfits : Fits a) (hfits' : Fits b)
    (hfree : HyphenFree a)
    (hfree' : HyphenFree b) :
    (∃ r, rSemverLessEqual a.text b.text = .ok r ∧ (r = true ↔ a.precedence ≤ b.precedence)) ↔
      (coreRank a.major a.minor a.patch = coreRank b.major b.minor b.patch → ∀ s t,
        firstDifference a.preRelease b.preRelease = some (s, t) →
          ¬ (Misread s t ∨ Misread t s)) := by
  rw [rSemverLessEqual_of_parsed (rSemverParse_text hfits hfree) (rSemverParse_text hfits' hfree')]
  simp only [Except.ok.injEq, exists_eq_left', lessEqual_iff, rank_parsed, Version.precedence]
  rw [rankBy_le_iff_iff]
  · constructor
    · intro h hcore s t hdiff
      obtain ⟨hs, ht, hne⟩ := firstDifference_mem hdiff
      exact (fieldRank_lt_iff (a.preRelease_valid s hs) (b.preRelease_valid t ht) hne).mp
        (h hcore s t hdiff)
    · intro h hcore s t hdiff
      obtain ⟨hs, ht, hne⟩ := firstDifference_mem hdiff
      exact (fieldRank_lt_iff (a.preRelease_valid s hs) (b.preRelease_valid t ht) hne).mpr
        (h hcore s t hdiff)
  · intro s hs t ht hne
    exact fieldRank_ne (a.preRelease_valid s hs) (b.preRelease_valid t ht) hne
  · intro s hs t ht hne
    exact identifierRank_ne (a.preRelease_valid s hs) (b.preRelease_valid t ht) hne

/-- With a minimal version configured and not ignored, the bundle passes when the comparison says
so. -/
lemma checkVersionLimits_iff {ctx : BundleContext} {args : BundleInstallArgs}
    {manifest : RaucManifest}
    {minVersion version : String} (hmin : ctx.systemMinBundleVersion = some minVersion)
    (hlimit : args.ignoreVersionLimit = false) (hversion : manifest.updateVersion = some version) :
    checkVersionLimits ctx args manifest = .ok () ↔ rSemverLessEqual minVersion version =
      .ok true := by
  simp only [checkVersionLimits, hmin, hlimit, hversion]
  cases hless : rSemverLessEqual minVersion version with
  | error e => simp [Bind.bind, Except.bind]
  | ok met =>
    cases met with
    | true => simp [Bind.bind, Except.bind]
    | false => simp [Bind.bind, Except.bind]

/-- Two versions are compared by their precedence, and limited by it, exactly when neither has a
hyphen in its pre-release and no overlong number decides between pre-releases of one core. -/
theorem rSemverLessEqual_precedence_iff {a b : Version} (ha : Fits a) (hb : Fits b) :
    ((∃ r, rSemverLessEqual a.text b.text = .ok r ∧ (r = true ↔ a.precedence ≤ b.precedence)) ∧
      ∀ (ctx : BundleContext) (args : BundleInstallArgs) (manifest : RaucManifest),
        ctx.systemMinBundleVersion = some a.text → args.ignoreVersionLimit = false →
        manifest.updateVersion = some b.text →
        (checkVersionLimits ctx args manifest = .ok () ↔ a.precedence ≤ b.precedence)) ↔
      HyphenFree a ∧ HyphenFree b ∧
        (coreRank a.major a.minor a.patch = coreRank b.major b.minor b.patch → ∀ s t,
          firstDifference a.preRelease b.preRelease = some (s, t) →
            ¬ (Misread s t ∨ Misread t s)) := by
  constructor
  · rintro ⟨⟨r, hr, hprecedence⟩, -⟩
    obtain ⟨hfree, hfree'⟩ := hyphenFree_of_agrees hr
    exact ⟨hfree, hfree', (rSemverLessEqual_text_iff ha hb hfree hfree').mp ⟨r, hr, hprecedence⟩⟩
  · rintro ⟨hfree, hfree', hread⟩
    obtain ⟨r, hr, hprecedence⟩ := (rSemverLessEqual_text_iff ha hb hfree hfree').mpr hread
    refine ⟨⟨r, hr, hprecedence⟩, ?_⟩
    intro ctx args manifest hmin hlimit hversion
    rw [checkVersionLimits_iff hmin hlimit hversion, hr, Except.ok.injEq, hprecedence]

/-- `1.0.0` with a pre-release of one identifier. -/
def firstRelease (s : String) (h : IsPreReleaseIdentifier s) : Version where
  major := 1
  minor := 0
  patch := 0
  preRelease := [s]
  preRelease_valid := by simpa using h

lemma identifier_beta : IsPreReleaseIdentifier "beta" :=
  ⟨⟨by decide, by simp [isIdentifierChar]⟩, fun _ => .inr (by decide)⟩

lemma identifier_rc2 : IsPreReleaseIdentifier "rc2" :=
  ⟨⟨by decide, by simp [isIdentifierChar]⟩, fun _ => .inr (by decide)⟩

lemma identifier_rc_2 : IsPreReleaseIdentifier "rc-2" :=
  ⟨⟨by decide, by simp [isIdentifierChar]⟩, fun _ => .inr (by decide)⟩

theorem rSemverLessEqual_precedence_candidate :
    (firstRelease "beta" identifier_beta).text = "1.0.0-beta" ∧
    (firstRelease "rc2" identifier_rc2).text = "1.0.0-rc2" ∧
    ∃ r, rSemverLessEqual (firstRelease "beta" identifier_beta).text
      (firstRelease "rc2" identifier_rc2).text = .ok r ∧
      (r = true ↔
        (firstRelease "beta" identifier_beta).precedence ≤
          (firstRelease "rc2" identifier_rc2).precedence) := by
  refine ⟨by decide +kernel, by decide +kernel, ?_⟩
  refine ((rSemverLessEqual_precedence_iff ?_ ?_).mpr ⟨?_, ?_, ?_⟩).1
  · simp [Fits, firstRelease]
  · simp [Fits, firstRelease]
  · simp [HyphenFree, firstRelease]
  · simp [HyphenFree, firstRelease]
  · intro _ s t hdiff
    obtain ⟨rfl, rfl⟩ : "beta" = s ∧ "rc2" = t := by
      simpa [firstRelease, firstDifference] using hdiff
    have hletters : ¬ AllDigits "beta".toList := by decide
    have hletters' : ¬ AllDigits "rc2".toList := by decide
    rintro (hmisread | hmisread)
    · exact hletters hmisread.1.1
    · exact hletters' hmisread.1.1

/-- The hyphen in the pre-release of a valid version is taken for its beginning. -/
theorem rSemverLessEqual_hyphen :
    Fits (firstRelease "rc-2" identifier_rc_2) ∧ (firstRelease "rc-2" identifier_rc_2).text =
      "1.0.0-rc-2" ∧
    ¬ ∃ r, rSemverLessEqual (firstRelease "rc-2" identifier_rc_2).text
      (firstRelease "rc-2" identifier_rc_2).text =
      .ok r := by
  refine ⟨by simp [Fits, firstRelease], by decide +kernel, ?_⟩
  rintro ⟨r, hr⟩
  have hfree := (hyphenFree_of_agrees hr).1
  simp [HyphenFree, firstRelease] at hfree

end Agreement

end RaucUpdate
