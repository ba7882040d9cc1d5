import Mathlib.Data.List.DropRight
import Mathlib.Data.Nat.Digits.Defs
import Mathlib.Tactic.IntervalCases

/-!
# Text fields and numbers

Splitting a text at a separator, joining it again, stripping trailing blanks, and reading an
unsigned 64-bit number from a text with the conventions of the C library family: leading
blanks, an optional sign, an optional `0x`, saturation on overflow, and the unread rest.
-/

namespace RaucUpdate.Library

section Blanks

/-- ASCII white space without the vertical tab. -/
def isBlank (c : Char) : Bool :=
  c == ' ' || c == '\t' || c == '\n' || c == '\x0c' || c == '\r'

/-- What ends a line for a regular expression. -/
def isNewline (c : Char) : Bool :=
  ['\n', '\x0b', '\x0c', '\r', Char.ofNat 0x85, Char.ofNat 0x2028, Char.ofNat 0x2029].contains c

def chompChars (s : List Char) : List Char := s.rdropWhile isBlank

/-- Drops the blanks at the end of a text. -/
def chomp (s : String) : String := String.ofList (chompChars s.toList)

/-- Removes the blanks at both ends. -/
def strip (s : String) : String := chomp (String.ofList (s.toList.dropWhile isBlank))

lemma chompChars_of_not_blank (s : List Char) (h : ∀ c ∈ s, isBlank c = false) :
    chompChars s = s := by
  unfold chompChars
  rw [List.rdropWhile_eq_self_iff]
  intro hs
  simp [h _ (List.getLast_mem hs)]

lemma chomp_of_not_blank (s : String) (h : ∀ c ∈ s.toList, isBlank c = false) : chomp s = s := by
  unfold chomp
  rw [chompChars_of_not_blank _ h, String.ofList_toList]

lemma chomp_chomp (s : String) : chomp (chomp s) = chomp s := by
  unfold chomp chompChars
  rw [String.toList_ofList, List.rdropWhile_idempotent]

lemma chompChars_append_blank (s : List Char) (c : Char) (h : isBlank c = true) :
    chompChars (s ++ [c]) = chompChars s :=
  List.rdropWhile_concat_pos _ _ _ h

lemma chompChars_append_of_ne_nil (s t : List Char) (h : chompChars t ≠ []) :
    chompChars (s ++ t) = s ++ chompChars t := by
  induction t using List.reverseRecOn with
  | nil => simp [chompChars] at h
  | append_singleton t c ih =>
    rw [← List.append_assoc]
    by_cases hc : isBlank c = true
    · rw [chompChars_append_blank _ _ hc] at h ⊢
      rw [chompChars_append_blank _ _ hc]
      exact ih h
    · unfold chompChars
      rw [List.rdropWhile_concat_neg _ _ _ hc, List.rdropWhile_concat_neg _ _ _ hc,
        List.append_assoc]

lemma chompChars_append_of_eq_nil (s t : List Char) (h : chompChars t = []) :
    chompChars (s ++ t) = chompChars s := by
  induction t using List.reverseRecOn with
  | nil => simp
  | append_singleton t c ih =>
    have hall : ∀ x ∈ t ++ [c], isBlank x = true := by
      unfold chompChars at h
      rwa [List.rdropWhile_eq_nil_iff] at h
    have hc : isBlank c = true := hall c (by simp)
    rw [chompChars_append_blank _ _ hc] at h
    rw [← List.append_assoc, chompChars_append_blank _ _ hc]
    exact ih h

lemma mem_of_mem_chompChars {s : List Char} {c : Char} (h : c ∈ chompChars s) : c ∈ s :=
  (List.rdropWhile_prefix isBlank s).subset h

end Blanks

section Fields

/-- The fields of a text between separators. The empty text has no field at all. -/
def splitChars (sep : Char) (s : List Char) : List (List Char) :=
  if s = [] then [] else s.splitOn sep

def splitFields (sep : Char) (s : String) : List String :=
  (splitChars sep s.toList).map String.ofList

def joinChars (sep : Char) (fs : List (List Char)) : List Char := [sep].intercalate fs

def joinFields (sep : Char) (fs : List String) : String :=
  String.ofList (joinChars sep (fs.map String.toList))

def splitAtMostChars (sep : Char) : Nat → List Char → List (List Char)
  | 0, s => [s]
  | n + 1, s =>
    if sep ∈ s then
      s.takeWhile (· ≠ sep) :: splitAtMostChars sep n ((s.dropWhile (· ≠ sep)).drop 1) else [s]

/-- Splits a text into at most the given number of fields; what is left stays in the last one. -/
def splitAtMost (sep : Char) (fields : Nat) (s : String) : List String :=
  if s = "" then [] else (splitAtMostChars sep (fields - 1) s.toList).map String.ofList

lemma joinChars_cons (sep : Char) (f : List Char) {fs : List (List Char)} (h : fs ≠ []) :
    joinChars sep (f :: fs) = f ++ sep :: joinChars sep fs := by
  unfold joinChars
  cases fs with
  | nil => exact absurd rfl h
  | cons g rest => simp [List.intercalate]

lemma splitAtMostChars_ne_nil (sep : Char) (n : Nat) (s : List Char) :
    splitAtMostChars sep n s ≠ [] := by
  cases n with
  | zero => simp [splitAtMostChars]
  | succ n =>
    unfold splitAtMostChars
    split_ifs <;> simp

lemma joinChars_splitAtMostChars (sep : Char) (n : Nat) (s : List Char) :
    joinChars sep (splitAtMostChars sep n s) = s := by
  induction n generalizing s with
  | zero => simp [splitAtMostChars, joinChars, List.intercalate]
  | succ n ih =>
    unfold splitAtMostChars
    split_ifs with hsep
    · have hdrop : s.dropWhile (· ≠ sep) = sep :: (s.dropWhile (· ≠ sep)).drop 1 := by
        have hne : s.dropWhile (· ≠ sep) ≠ [] := by
          intro hnil
          have hall := List.dropWhile_eq_nil_iff.mp hnil sep hsep
          simp at hall
        have hhead := List.head_dropWhile_not (fun c => decide (c ≠ sep)) hne
        obtain ⟨c, rest, hcons⟩ := List.exists_cons_of_ne_nil hne
        simp only [hcons, List.head_cons, decide_eq_false_iff_not, not_not] at hhead
        rw [hcons, hhead]
        rfl
      calc
        joinChars sep (s.takeWhile (· ≠ sep) :: splitAtMostChars sep n
            ((s.dropWhile (· ≠ sep)).drop 1))
            = s.takeWhile (· ≠ sep) ++ sep :: (s.dropWhile (· ≠ sep)).drop 1 := by
          rw [joinChars_cons sep _ (splitAtMostChars_ne_nil sep n _), ih]
        _ = s := by rw [← hdrop, List.takeWhile_append_dropWhile]
    · simp [joinChars, List.intercalate]

lemma length_splitAtMostChars (sep : Char) (n : Nat) (s : List Char) :
    (splitAtMostChars sep n s).length ≤ n + 1 := by
  induction n generalizing s with
  | zero => simp [splitAtMostChars]
  | succ n ih =>
    have hrest := ih ((s.dropWhile (· ≠ sep)).drop 1)
    unfold splitAtMostChars
    split_ifs
    · simp only [List.length_cons]
      omega
    · simp

/-- Nothing is lost when a text is split. -/
lemma joinFields_splitAtMost (sep : Char) (fields : Nat) {s : String} (h : s ≠ "") :
    joinFields sep (splitAtMost sep fields s) = s := by
  unfold splitAtMost joinFields
  rw [if_neg h, List.map_map]
  have hid : (String.toList ∘ String.ofList) = id := by
    funext l
    exact String.toList_ofList
  rw [hid, List.map_id, joinChars_splitAtMostChars, String.ofList_toList]

lemma joinFields_singleton (sep : Char) (a : String) : joinFields sep [a] = a := by
  apply String.toList_inj.mp
  simp [joinFields, joinChars, List.intercalate]

lemma joinFields_cons (sep : Char) (a b : String) (fs : List String) :
    joinFields sep (a :: b :: fs) = a ++ String.singleton sep ++ joinFields sep (b :: fs) := by
  apply String.toList_inj.mp
  unfold joinFields
  rw [List.map_cons, joinChars_cons sep _ (by simp)]
  simp [String.toList_append]

lemma splitAtMostChars_found {sep : Char} (n : Nat) {a : List Char} (s : List Char) (h : sep ∉ a) :
    splitAtMostChars sep (n + 1) (a ++ sep :: s) = a :: splitAtMostChars sep n s := by
  have htake : ∀ c ∈ a, decide (c ≠ sep) = true := by
    intro c hc
    apply decide_eq_true
    rintro rfl
    exact h hc
  rw [splitAtMostChars, if_pos (by simp), List.takeWhile_append_of_pos htake,
    List.dropWhile_append_of_pos htake]
  simp

lemma splitAtMost_two (sep : Char) (a b : String) (h : sep ∉ a.toList) :
    splitAtMost sep 2 (a ++ String.singleton sep ++ b) = [a, b] := by
  have hlist : (a ++ String.singleton sep ++ b).toList = a.toList ++ sep :: b.toList := by
    simp [String.toList_append]
  have hne : a ++ String.singleton sep ++ b ≠ "" := by
    intro hempty
    rw [hempty] at hlist
    simp at hlist
  unfold splitAtMost
  rw [if_neg hne, hlist, splitAtMostChars_found 0 _ h]
  simp [splitAtMostChars]

lemma splitAtMost_three (sep : Char) (a b c : String) (ha : sep ∉ a.toList) (hb : sep ∉ b.toList) :
    splitAtMost sep 3 (a ++ String.singleton sep ++ (b ++ String.singleton sep ++ c)) =
      [a, b, c] := by
  have hlist : (a ++ String.singleton sep ++ (b ++ String.singleton sep ++ c)).toList =
      a.toList ++ sep :: (b.toList ++ sep :: c.toList) := by
    simp [String.toList_append]
  have hne : a ++ String.singleton sep ++ (b ++ String.singleton sep ++ c) ≠ "" := by
    intro hempty
    rw [hempty] at hlist
    simp at hlist
  unfold splitAtMost
  rw [if_neg hne, hlist, splitAtMostChars_found 1 _ ha, splitAtMostChars_found 0 _ hb]
  simp [splitAtMostChars]

lemma length_splitAtMost (sep : Char) (fields : Nat) (hpos : 0 < fields) (s : String) :
    (splitAtMost sep fields s).length ≤ fields := by
  have hchars := length_splitAtMostChars sep (fields - 1) s.toList
  unfold splitAtMost
  split_ifs
  · simp
  · rw [List.length_map]
    omega

/-- Only the last of the fields can hold a separator. -/
lemma not_mem_of_splitAtMostChars {sep : Char} {n i : Nat} {s t : List Char} (hi : i < n)
    (h : (splitAtMostChars sep n s)[i]? = some t) : sep ∉ t := by
  induction n generalizing s i with
  | zero => omega
  | succ n ih =>
    unfold splitAtMostChars at h
    split_ifs at h with hsep
    · cases i with
      | zero =>
        obtain rfl := Option.some.inj h
        intro hmem
        simpa using List.mem_takeWhile_imp hmem
      | succ i => exact ih (by omega) h
    · cases i with
      | zero =>
        obtain rfl := Option.some.inj h
        exact hsep
      | succ i => simp at h

lemma mem_of_mem_splitAtMostChars {sep : Char} {n : Nat} {s t : List Char}
    (h : t ∈ splitAtMostChars sep n s) {c : Char}
    (hc : c ∈ t) : c ∈ s := by
  induction n generalizing s with
  | zero =>
    rw [List.mem_singleton.mp h] at hc
    exact hc
  | succ n ih =>
    unfold splitAtMostChars at h
    split_ifs at h with hsep
    · rcases List.mem_cons.mp h with h | h
      · rw [h] at hc
        exact (List.takeWhile_prefix _).subset hc
      · exact (List.dropWhile_suffix _).subset (List.drop_subset _ _ (ih h))
    · rw [List.mem_singleton.mp h] at hc
      exact hc

lemma not_mem_of_splitAtMost {sep : Char} {fields i : Nat} {s t : String} (hi : i + 1 < fields)
    (h : (splitAtMost sep fields s)[i]? = some t) : sep ∉ t.toList := by
  unfold splitAtMost at h
  split_ifs at h with hempty
  · simp at h
  · rw [List.getElem?_map] at h
    obtain ⟨u, hu, rfl⟩ := Option.map_eq_some_iff.mp h
    rw [String.toList_ofList]
    exact not_mem_of_splitAtMostChars (by omega) hu

lemma mem_of_mem_splitAtMost {sep : Char} {fields : Nat} {s t : String}
    (h : t ∈ splitAtMost sep fields s) {c : Char}
    (hc : c ∈ t.toList) : c ∈ s.toList := by
  unfold splitAtMost at h
  split_ifs at h with hempty
  · simp at h
  · obtain ⟨u, hu, rfl⟩ := List.mem_map.mp h
    rw [String.toList_ofList] at hc
    exact mem_of_mem_splitAtMostChars hu hc

lemma joinChars_append_singleton (sep : Char) (fs : List (List Char)) (t : List Char)
    (h : fs ≠ []) :
    joinChars sep (fs ++ [t]) = joinChars sep fs ++ sep :: t := by
  unfold joinChars
  induction fs with
  | nil => exact absurd rfl h
  | cons f rest ih =>
    cases rest with
    | nil => simp
    | cons g rest =>
      simp only [List.cons_append, List.intercalate_cons_cons] at ih ⊢
      rw [ih (by simp)]
      simp

lemma not_mem_of_mem_splitOn (sep : Char) (s t : List Char) (h : t ∈ s.splitOn sep) : sep ∉ t := by
  induction s generalizing t with
  | nil =>
    rw [List.splitOn_nil] at h
    rw [List.mem_singleton.mp h]
    exact List.not_mem_nil
  | cons c rest ih =>
    rw [List.splitOn_cons_eq_if_modifyHead] at h
    by_cases hc : c = sep
    · rw [if_pos (by simp [hc])] at h
      rcases List.mem_cons.mp h with h | h
      · rw [h]
        exact List.not_mem_nil
      · exact ih t h
    · rw [if_neg (by simp [hc])] at h
      obtain ⟨f, fs, hfs⟩ := List.exists_cons_of_ne_nil (List.splitOn_ne_nil sep rest)
      rw [hfs, List.modifyHead_cons] at h
      rcases List.mem_cons.mp h with h | h
      · rw [h, List.mem_cons, not_or]
        exact ⟨Ne.symm hc, ih f (by simp [hfs])⟩
      · exact ih t (by simp [hfs, h])

lemma not_mem_of_mem_splitChars {sep : Char} {s t : List Char} (h : t ∈ splitChars sep s) :
    sep ∉ t := by
  unfold splitChars at h
  split_ifs at h with hs
  · exact absurd h List.not_mem_nil
  · exact not_mem_of_mem_splitOn sep s t h

lemma not_mem_of_mem_splitFields {sep : Char} {s t : String} (h : t ∈ splitFields sep s) :
    sep ∉ t.toList := by
  obtain ⟨u, hu, rfl⟩ := List.mem_map.mp h
  rw [String.toList_ofList]
  exact not_mem_of_mem_splitChars hu

lemma splitChars_joinChars (sep : Char) (fs : List (List Char)) (hsep : ∀ f ∈ fs, sep ∉ f)
    (hne : joinChars sep fs ≠ []) : splitChars sep (joinChars sep fs) = fs := by
  unfold splitChars
  rw [if_neg hne]
  refine List.splitOn_intercalate sep hsep ?_
  rintro rfl
  exact hne rfl

/-- Joining fields, stripping the trailing blanks and splitting again changes the list of
fields only at its end: blank fields are lost and the last field is stripped. -/
lemma splitChars_chompChars_joinChars (sep : Char) (hblank : isBlank sep = true)
    (fs : List (List Char))
    (hsep : ∀ f ∈ fs, sep ∉ f) :
    ∃ front back : List (List Char), fs = front ++ back ∧
      ((splitChars sep (chompChars (joinChars sep fs)) = front ∧ ∀ b ∈ back, chompChars b = []) ∨
        ∃ t rest, back = t :: rest ∧ (∀ b ∈ rest, chompChars b = []) ∧
          splitChars sep (chompChars (joinChars sep fs)) = front ++ [chompChars t]) := by
  induction fs using List.reverseRecOn with
  | nil =>
    refine ⟨[], [], rfl, Or.inl ⟨?_, by simp⟩⟩
    simp [joinChars, chompChars, splitChars]
  | append_singleton fs t ih =>
    have hsepFs : ∀ f ∈ fs, sep ∉ f := fun f hf => hsep f (by simp [hf])
    by_cases ht : chompChars t = []
    · -- a blank last field disappears together with the separator before it
      have hcut : chompChars (joinChars sep (fs ++ [t])) = chompChars (joinChars sep fs) := by
        by_cases hfs : fs = []
        · subst hfs
          simpa [joinChars, chompChars] using ht
        · rw [joinChars_append_singleton sep fs t hfs]
          have hst : chompChars (sep :: t) = [] := by
            unfold chompChars at ht ⊢
            rw [List.rdropWhile_eq_nil_iff] at ht ⊢
            intro c hc
            rcases List.mem_cons.mp hc with rfl | hc
            · exact hblank
            · exact ht c hc
          exact chompChars_append_of_eq_nil _ _ hst
      obtain ⟨front, back, hfs, h⟩ := ih hsepFs
      refine ⟨front, back ++ [t], by rw [hfs, List.append_assoc], ?_⟩
      rw [hcut]
      rcases h with ⟨hsplit, hback⟩ | ⟨u, rest, rfl, hrest, hsplit⟩
      · refine Or.inl ⟨hsplit, ?_⟩
        intro b hb
        rcases List.mem_append.mp hb with hb | hb
        · exact hback b hb
        · rwa [List.mem_singleton.mp hb]
      · refine Or.inr ⟨u, rest ++ [t], by simp, ?_, hsplit⟩
        intro b hb
        rcases List.mem_append.mp hb with hb | hb
        · exact hrest b hb
        · rwa [List.mem_singleton.mp hb]
    · refine ⟨fs, [t], rfl, Or.inr ⟨t, [], rfl, by simp, ?_⟩⟩
      have hcut : chompChars (joinChars sep (fs ++ [t])) =
          joinChars sep (fs ++ [chompChars t]) := by
        by_cases hfs : fs = []
        · subst hfs
          simp [joinChars]
        · rw [joinChars_append_singleton sep fs t hfs, joinChars_append_singleton sep fs _ hfs]
          rw [← List.singleton_append, ← List.append_assoc, chompChars_append_of_ne_nil _ _ ht]
          simp
      have hclean : ∀ f ∈ fs ++ [chompChars t], sep ∉ f := by
        intro f hf
        rcases List.mem_append.mp hf with hf | hf
        · exact hsepFs f hf
        · rw [List.mem_singleton.mp hf]
          exact fun hm => hsep t (by simp) (mem_of_mem_chompChars hm)
      have hne : joinChars sep (fs ++ [chompChars t]) ≠ [] := by
        by_cases hfs : fs = []
        · subst hfs
          simpa [joinChars] using ht
        · rw [joinChars_append_singleton sep fs _ hfs]
          simp
      rw [hcut, splitChars_joinChars sep _ hclean hne]

lemma splitFields_chomp_joinFields (sep : Char) (hblank : isBlank sep = true) (fs : List String)
    (hsep : ∀ f ∈ fs, sep ∉ f.toList) :
    ∃ front back : List String, fs = front ++ back ∧
      ((splitFields sep (chomp (joinFields sep fs)) = front ∧ ∀ b ∈ back, chomp b = "") ∨
        ∃ t rest, back = t :: rest ∧ (∀ b ∈ rest, chomp b = "") ∧
          splitFields sep (chomp (joinFields sep fs)) = front ++ [chomp t]) := by
  have hsep' : ∀ f ∈ fs.map String.toList, sep ∉ f := by
    intro f hf
    obtain ⟨g, hg, rfl⟩ := List.mem_map.mp hf
    exact hsep g hg
  have hsplit : splitFields sep (chomp (joinFields sep fs)) =
      (splitChars sep (chompChars (joinChars sep (fs.map String.toList)))).map String.ofList := by
    simp [splitFields, chomp, joinFields]
  have hback : ∀ fs : List String, (∀ b ∈ fs.map String.toList, chompChars b = []) →
      ∀ b ∈ fs, chomp b = "" := by
    intro fs h b hb
    unfold chomp
    rw [h b.toList (List.mem_map_of_mem hb)]
  obtain ⟨front, back, hfs, h⟩ := splitChars_chompChars_joinChars sep hblank _ hsep'
  obtain ⟨front, back, rfl, rfl, rfl⟩ := List.map_eq_append_iff.mp hfs
  refine ⟨front, back, rfl, ?_⟩
  rcases h with ⟨hfront, hblanks⟩ | ⟨t, rest, ht, hrest, hlast⟩
  · refine Or.inl ⟨?_, hback back hblanks⟩
    rw [hsplit, hfront]
    simp [Function.comp_def]
  · obtain ⟨t, rest, rfl, rfl, rfl⟩ := List.map_eq_cons_iff.mp ht
    refine Or.inr ⟨t, rest, rfl, hback rest hrest, ?_⟩
    rw [hsplit, hlast]
    simp [Function.comp_def, chomp]

/-- A test that only accepts fields without trailing blanks selects the same fields before and
after the joined text has been stripped. -/
lemma filter_splitFields_chomp_joinFields (sep : Char) (hblank : isBlank sep = true)
    (fs : List String)
    (hsep : ∀ f ∈ fs, sep ∉ f.toList) (keep : String → Bool) (hempty : keep "" = false)
    (hkeep : ∀ f ∈ fs, chomp f = f ∨ (keep (chomp f) = false ∧ keep f = false)) :
    (splitFields sep (chomp (joinFields sep fs))).filter keep = fs.filter keep := by
  have hdrop : ∀ l : List String, (∀ f ∈ l, f ∈ fs ∧ chomp f = "") → l.filter keep = [] := by
    intro l hl
    refine List.filter_eq_nil_iff.mpr (fun f hf => ?_)
    rcases hkeep f (hl f hf).1 with hsame | ⟨-, hno⟩
    · rw [← hsame, (hl f hf).2, hempty]
      exact Bool.false_ne_true
    · rw [hno]
      exact Bool.false_ne_true
  obtain ⟨front, back, hfs, h⟩ := splitFields_chomp_joinFields sep hblank fs hsep
  rcases h with ⟨hfront, hblanks⟩ | ⟨t, rest, ht, hrest, hlast⟩
  · have hback :=
      hdrop back (fun f hf => ⟨by rw [hfs]; exact List.mem_append_right _ hf, hblanks f hf⟩)
    rw [hfront, hfs, List.filter_append, hback, List.append_nil]
  · have hmem : ∀ f ∈ t :: rest, f ∈ fs :=
      fun f hf => by rw [hfs, ht]; exact List.mem_append_right _ hf
    have hback := hdrop rest (fun f hf => ⟨hmem f (by simp [hf]), hrest f hf⟩)
    have hone : [chomp t].filter keep = [t].filter keep := by
      rcases hkeep t (hmem t (by simp)) with hsame | ⟨hno, hno'⟩
      · rw [hsame]
      · simp [hno, hno']
    calc (splitFields sep (chomp (joinFields sep fs))).filter keep
        = front.filter keep ++ [t].filter keep := by rw [hlast, List.filter_append, hone]
      _ = front.filter keep ++ ([t] ++ rest).filter keep := by
          rw [List.filter_append [t], hback, List.append_nil]
      _ = fs.filter keep := by rw [hfs, ht, ← List.filter_append, List.singleton_append]

/-- Every field of the stripped text is a field of the list, possibly stripped itself. -/
lemma mem_splitFields_chomp_joinFields (sep : Char) (hblank : isBlank sep = true) (fs : List String)
    (hsep : ∀ f ∈ fs, sep ∉ f.toList) {e : String}
    (he : e ∈ splitFields sep (chomp (joinFields sep fs))) :
    ∃ f ∈ fs, e = f ∨ e = chomp f := by
  obtain ⟨front, back, hfs, h⟩ := splitFields_chomp_joinFields sep hblank fs hsep
  rcases h with ⟨hfront, -⟩ | ⟨t, rest, ht, -, hlast⟩
  · rw [hfront] at he
    exact ⟨e, by rw [hfs]; exact List.mem_append_left _ he, Or.inl rfl⟩
  · rw [hlast] at he
    rcases List.mem_append.mp he with he | he
    · exact ⟨e, by rw [hfs]; exact List.mem_append_left _ he, Or.inl rfl⟩
    · exact ⟨t, by rw [hfs, ht]; simp, Or.inr (List.mem_singleton.mp he)⟩

/-- Fields that are neither empty nor end in a blank survive stripping. -/
lemma splitFields_chomp_joinFields_plain (sep : Char) (hblank : isBlank sep = true)
    (fs : List String)
    (hsep : ∀ f ∈ fs, sep ∉ f.toList) (hplain : ∀ f ∈ fs, chomp f = f ∧ f ≠ "") :
    splitFields sep (chomp (joinFields sep fs)) = fs := by
  have hnot : ∀ f ∈ fs, chomp f ≠ "" := by
    intro f hf
    rw [(hplain f hf).1]
    exact (hplain f hf).2
  obtain ⟨front, back, rfl, ⟨hsplit, hback⟩ | ⟨t, rest, rfl, hrest, hsplit⟩⟩ :=
    splitFields_chomp_joinFields sep hblank fs hsep
  · cases back with
    | nil => simpa using hsplit
    | cons b rest => exact absurd (hback b (by simp)) (hnot b (by simp))
  · cases rest with
    | nil => rw [hsplit, (hplain t (by simp)).1]
    | cons b rest => exact absurd (hrest b (by simp)) (hnot b (by simp))

lemma splitFields_joinFields (sep : Char) (fs : List String) (hsep : ∀ f ∈ fs, sep ∉ f.toList)
    (hne : joinFields sep fs ≠ "") : splitFields sep (joinFields sep fs) = fs := by
  have hchars : joinChars sep (fs.map String.toList) ≠ [] := by
    intro hnil
    apply hne
    rw [joinFields, hnil]
  have hsep' : ∀ f ∈ fs.map String.toList, sep ∉ f := by
    intro f hf
    obtain ⟨g, hg, rfl⟩ := List.mem_map.mp hf
    exact hsep g hg
  unfold splitFields joinFields
  rw [String.toList_ofList, splitChars_joinChars sep _ hsep' hchars, List.map_map]
  simp [Function.comp_def]

lemma mem_joinFields {sep c : Char} {fs : List String} (h : c ∈ (joinFields sep fs).toList) :
    c = sep ∨ ∃ f ∈ fs, c ∈ f.toList := by
  induction fs with
  | nil => simp [joinFields, joinChars] at h
  | cons f rest ih =>
    cases rest with
    | nil => exact .inr ⟨f, by simp, by simpa [joinFields, joinChars] using h⟩
    | cons g rest =>
      rw [joinFields_cons, String.toList_append, String.toList_append] at h
      rcases List.mem_append.mp h with h | h
      · rcases List.mem_append.mp h with h | h
        · exact .inr ⟨f, by simp, h⟩
        · exact .inl (by simpa using h)
      · rcases ih h with h | ⟨f', hf', hc⟩
        · exact .inl h
        · exact .inr ⟨f', by simp [hf'], hc⟩

lemma mem_joinFields_of_mem {sep c : Char} {f : String} {fs : List String} (hf : f ∈ fs)
    (hc : c ∈ f.toList) :
    c ∈ (joinFields sep fs).toList := by
  induction fs with
  | nil => simp at hf
  | cons g rest ih =>
    cases rest with
    | nil =>
      obtain rfl := List.mem_singleton.mp hf
      simpa [joinFields_singleton] using hc
    | cons g' rest =>
      rw [joinFields_cons, String.toList_append, String.toList_append, List.mem_append,
        List.mem_append]
      rcases List.mem_cons.mp hf with rfl | hf
      · exact .inl (.inl hc)
      · exact .inr (ih hf)

/-- A text with a separator in it falls apart at the last one. -/
lemma exists_last_separator {sep : Char} {s : String} (h : sep ∈ s.toList) :
    ∃ front back, s = front ++ String.singleton sep ++ back ∧ sep ∉ back.toList := by
  obtain ⟨back, front, hsplit, hback⟩ := List.eq_append_cons_of_mem (List.mem_reverse.mpr h)
  refine ⟨String.ofList front.reverse, String.ofList back.reverse, ?_, by simpa using hback⟩
  have hlist : s.toList = front.reverse ++ [sep] ++ back.reverse := by
    rw [← List.reverse_reverse s.toList, hsplit]
    simp
  apply String.toList_inj.mp
  simp [String.toList_append, hlist]

/-- Lines that are printed one after the other. -/
lemma foldl_lines (lines : List String) (start : String) :
    lines.foldl (fun text line => text ++ line ++ "\n") start =
      start ++ joinFields '\n' (lines ++ [""]) := by
  induction lines generalizing start with
  | nil => simp [joinFields, joinChars]
  | cons line rest ih =>
    rw [List.foldl_cons, ih]
    have hjoin : joinFields '\n' (line :: rest ++ [""]) =
        line ++ "\n" ++ joinFields '\n' (rest ++ [""]) := by
      have hne : (rest ++ [""]).map String.toList ≠ [] := by simp
      apply String.toList_inj.mp
      simp only [joinFields, List.cons_append, List.map_cons, joinChars_cons _ _ hne]
      simp [String.toList_append]
    rw [hjoin]
    simp [String.append_assoc]

end Fields

section Numbers

def digitVal (c : Char) : Option Nat :=
  if '0' ≤ c ∧ c ≤ '9' then some (c.toNat - '0'.toNat)
  else if 'a' ≤ c ∧ c ≤ 'z' then some (c.toNat - 'a'.toNat + 10)
  else if 'A' ≤ c ∧ c ≤ 'Z' then some (c.toNat - 'A'.toNat + 10)
  else none

/-- Accumulates digits of the base until the first other character, which starts the rest. -/
def takeDigits (base : Nat) : Nat → List Char → Nat × List Char
  | acc, [] => (acc, [])
  | acc, c :: rest =>
    match digitVal c with
    | some d => if d < base then takeDigits base (acc * base + d) rest else (acc, c :: rest)
    | none => (acc, c :: rest)

/-- What a numeric conversion reports: the value, whether anything was read, whether the value
was too large, and the unread characters. -/
structure Conversion where
  value : Nat
  converted : Bool
  overflow : Bool
  rest : List Char
  deriving DecidableEq

def isNumberSpace (c : Char) : Bool := isBlank c || c == '\x0b'

def dropSign : List Char → Bool × List Char
  | '-' :: rest => (true, rest)
  | '+' :: rest => (false, rest)
  | s => (false, s)

def dropHexLetter (base : Nat) (s : List Char) : List Char :=
  match base, s with
  | 16, '0' :: 'x' :: rest => rest
  | 16, '0' :: 'X' :: rest => rest
  | _, s => s

/-- Reads an unsigned 64-bit number; `-` negates modulo `2 ^ 64`. -/
def strtoull (base : Nat) (s : String) : Conversion :=
  let (negative, body) := dropSign (s.toList.dropWhile isNumberSpace)
  let digits := dropHexLetter base body
  let (value, rest) := takeDigits base 0 digits
  if rest = digits then
    -- no digit was read; a bare `0x` still counts as the number zero
    if digits = body then ⟨0, false, false, s.toList⟩ else ⟨0, true, false, body.drop 1⟩
  else
    let saturated := min value (2 ^ 64 - 1)
    ⟨if negative then (2 ^ 64 - saturated) % 2 ^ 64 else saturated, true, 2 ^ 64 ≤ value, rest⟩

/-- The base that the beginning of a number announces. -/
def detectBase : List Char → Nat
  | '0' :: 'x' :: _ => 16
  | '0' :: 'X' :: _ => 16
  | '0' :: _ => 8
  | _ => 10

/-- Reads an unsigned 64-bit number in the base that it announces. -/
def strtoullAuto (s : String) : Conversion :=
  strtoull (detectBase (dropSign (s.toList.dropWhile isNumberSpace)).2) s

lemma digitVal_digitChar {d : Nat} (h : d < 16) : digitVal d.digitChar = some d := by
  interval_cases d <;> decide

lemma takeDigits_append (base acc v : Nat) (xs ys : List Char)
    (h : takeDigits base acc xs = (v, [])) :
    takeDigits base acc (xs ++ ys) = takeDigits base v ys := by
  induction xs generalizing acc with
  | nil =>
    simp only [takeDigits, Prod.mk.injEq, and_true] at h
    rw [h, List.nil_append]
  | cons c rest ih =>
    simp only [List.cons_append, takeDigits] at h ⊢
    cases hd : digitVal c with
    | none => simp [hd] at h
    | some d =>
      simp only [hd] at h ⊢
      split_ifs at h ⊢ with hlt
      · exact ih _ h
      · simp at h

lemma takeDigits_toDigits (base : Nat) (hlow : 2 ≤ base) (hhigh : base ≤ 16) (n : Nat) :
    takeDigits base 0 (Nat.toDigits base n) = (n, []) := by
  induction n using Nat.strong_induction_on with
  | _ n ih =>
    by_cases hn : n < base
    · rw [Nat.toDigits_of_lt_base hn]
      simp [takeDigits, digitVal_digitChar (by omega : n < 16), hn]
    · have hstep : Nat.toDigits base n = Nat.toDigits base (n / base) ++ [(n % base).digitChar] :=
        Nat.toDigits_of_base_le (by omega) (by omega)
      have hrec := ih (n / base) (Nat.div_lt_self (by omega) (by omega))
      have hmod : n % base < base := Nat.mod_lt _ (by omega)
      rw [hstep, takeDigits_append base 0 _ _ _ hrec]
      simp only [takeDigits, digitVal_digitChar (by omega : n % base < 16), hmod, if_true]
      rw [Nat.div_add_mod']

lemma digitVal_of_mem_toDigits (base : Nat) (hlow : 2 ≤ base) (hhigh : base ≤ 16)
    (n : Nat) {c : Char}
    (h : c ∈ Nat.toDigits base n) : ∃ d < 16, c = d.digitChar := by
  induction n using Nat.strong_induction_on with
  | _ n ih =>
    by_cases hn : n < base
    · rw [Nat.toDigits_of_lt_base hn, List.mem_singleton] at h
      exact ⟨n, by omega, h⟩
    · rw [Nat.toDigits_of_base_le (by omega) (by omega), List.mem_append, List.mem_singleton] at h
      rcases h with h | h
      · exact ih (n / base) (Nat.div_lt_self (by omega) (by omega)) h
      · have hmod : n % base < base := Nat.mod_lt _ (by omega)
        exact ⟨n % base, by omega, h⟩

/-- A digit is neither white space, nor a sign, nor the letter of a hexadecimal prefix. -/
lemma digitChar_plain {d : Nat} (h : d < 16) :
    isNumberSpace d.digitChar = false ∧ d.digitChar ≠ '-' ∧ d.digitChar ≠ '+' ∧
      d.digitChar ≠ 'x' ∧ d.digitChar ≠ 'X' ∧ isBlank d.digitChar = false := by
  interval_cases d <;> decide

/-- The text of a number in its base. -/
def formatNat (base n : Nat) : String := String.ofList (Nat.toDigits base n)

lemma not_blank_of_mem_formatNat (base : Nat) (hlow : 2 ≤ base) (hhigh : base ≤ 16) (n : Nat) :
    ∀ c ∈ (formatNat base n).toList, isBlank c = false := by
  intro c hc
  rw [formatNat, String.toList_ofList] at hc
  obtain ⟨d, hd, rfl⟩ := digitVal_of_mem_toDigits base hlow hhigh n hc
  exact (digitChar_plain hd).2.2.2.2.2

theorem strtoull_formatNat (base : Nat) (hlow : 2 ≤ base) (hhigh : base ≤ 16) (n : Nat)
    (hn : n < 2 ^ 64) :
    strtoull base (formatNat base n) = ⟨n, true, false, []⟩ := by
  have hplain : ∀ c ∈ Nat.toDigits base n, ∃ d < 16, c = d.digitChar :=
    fun c hc => digitVal_of_mem_toDigits base hlow hhigh n hc
  have hread := takeDigits_toDigits base hlow hhigh n
  have hne : Nat.toDigits base n ≠ [] := Nat.toDigits_ne_nil
  unfold strtoull formatNat
  rw [String.toList_ofList]
  obtain ⟨c, rest, hcs⟩ := List.exists_cons_of_ne_nil hne
  rw [hcs] at hplain hread ⊢
  obtain ⟨d, hd, rfl⟩ := hplain c (by simp)
  obtain ⟨hspace, hminus, hplus, -⟩ := digitChar_plain hd
  have hdrop : (d.digitChar :: rest).dropWhile isNumberSpace = d.digitChar :: rest := by
    rw [List.dropWhile_cons_of_neg (by simp [hspace])]
  have hsign : dropSign (d.digitChar :: rest) = (false, d.digitChar :: rest) := by
    unfold dropSign
    split
    · next h => exact absurd (List.cons.inj h).1 hminus
    · next h => exact absurd (List.cons.inj h).1 hplus
    · rfl
  have hletter : dropHexLetter base (d.digitChar :: rest) = d.digitChar :: rest := by
    unfold dropHexLetter
    split
    · next h =>
      obtain ⟨e, he, hx⟩ := hplain 'x' (by simp [(List.cons.inj h).2])
      exact absurd hx.symm (digitChar_plain he).2.2.2.1
    · next h =>
      obtain ⟨e, he, hx⟩ := hplain 'X' (by simp [(List.cons.inj h).2])
      exact absurd hx.symm (digitChar_plain he).2.2.2.2.1
    · rfl
  rw [hdrop, hsign]
  simp only
  rw [hletter, hread]
  simp only [List.nil_eq, reduceCtorEq, if_false, Bool.false_eq_true]
  congr 1
  · omega
  · simpa using hn

end Numbers

end RaucUpdate.Library
