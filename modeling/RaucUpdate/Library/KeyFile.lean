import RaucUpdate.Library.OrderedTable
import RaucUpdate.Library.TextFields

/-!
# Key files

A key file is a table of groups, each a table of keys with the text that stands behind the `=`
sign. Strings are escaped when they are set and unescaped when they are read, a list is
terminated element by element with `;`, and numbers are decimal. Reading back what was set is
proved here and not assumed.
-/

namespace RaucUpdate.Library

inductive KeyFileError where
  | groupNotFound (group : String)
  | keyNotFound (group key : String)
  | invalidValue (group key : String)
  deriving DecidableEq

abbrev KeyFile : Type := Table String (Table String String)

namespace KeyFile

section Escapes

/-- Escapes a string. The flag says that only blanks have been read so far; they are the ones
that need an escape. In a list the separator is escaped too. -/
def escapeChars (list : Bool) : Bool → List Char → List Char
  | _, [] => []
  | leading, c :: rest =>
    if c = ' ' then (if leading then ['\\', 's'] else [' ']) ++ escapeChars list leading rest
    else if c = '\t' then (if leading then ['\\', 't'] else ['\t']) ++ escapeChars list leading rest
    else if c = '\n' then '\\' :: 'n' :: escapeChars list leading rest
    else if c = '\r' then '\\' :: 'r' :: escapeChars list leading rest
    else if c = '\\' then '\\' :: '\\' :: escapeChars list false rest
    else if list ∧ c = ';' then '\\' :: ';' :: escapeChars list true rest
    else c :: escapeChars list false rest

/-- Reads a string value. An unknown escape sequence is kept as it stands. -/
def unescapeChars : List Char → List Char
  | [] => []
  | ['\\'] => []
  | '\\' :: c :: rest =>
    if c = 's' then ' ' :: unescapeChars rest
    else if c = 'n' then '\n' :: unescapeChars rest
    else if c = 't' then '\t' :: unescapeChars rest
    else if c = 'r' then '\r' :: unescapeChars rest
    else if c = '\\' then '\\' :: unescapeChars rest
    else '\\' :: c :: unescapeChars rest
  | c :: rest => c :: unescapeChars rest

/-- Reads a list value: `piece` holds the characters of the element under way. An unknown escape
sequence makes the value unreadable. -/
def unescapeList (piece : List Char) : List Char → Option (List (List Char))
  | [] => some (if piece = [] then [] else [piece])
  | ['\\'] => none
  | '\\' :: c :: rest =>
    if c = 's' then unescapeList (piece ++ [' ']) rest
    else if c = 'n' then unescapeList (piece ++ ['\n']) rest
    else if c = 't' then unescapeList (piece ++ ['\t']) rest
    else if c = 'r' then unescapeList (piece ++ ['\r']) rest
    else if c = '\\' then unescapeList (piece ++ ['\\']) rest
    else if c = ';' then unescapeList (piece ++ [';']) rest
    else none
  | c :: rest =>
    if c = ';' then (unescapeList [] rest).map (piece :: ·)
    else unescapeList (piece ++ [c]) rest

lemma unescapeChars_cons {c : Char} (h : c ≠ '\\') (rest : List Char) :
    unescapeChars (c :: rest) = c :: unescapeChars rest := by
  rw [unescapeChars]
  · intro hc
    exact absurd hc h
  · intro c' rest' hc
    exact absurd hc h

lemma unescapeChars_plain {s : List Char} (h : '\\' ∉ s) : unescapeChars s = s := by
  induction s with
  | nil => rfl
  | cons c rest ih =>
    simp only [List.mem_cons, not_or] at h
    rw [unescapeChars_cons (Ne.symm h.1), ih h.2]

lemma unescapeChars_escapeChars (leading : Bool) (s : List Char) :
    unescapeChars (escapeChars false leading s) = s := by
  induction s generalizing leading with
  | nil => simp [escapeChars, unescapeChars]
  | cons c rest ih =>
    rw [escapeChars]
    split_ifs with h1 hl h2 hl h3 h4 h5 h6
    · simp [unescapeChars, ih, h1]
    · simp [unescapeChars_cons, ih, h1]
    · simp [unescapeChars, ih, h2]
    · simp [unescapeChars_cons, ih, h2]
    · simp [unescapeChars, ih, h3]
    · simp [unescapeChars, ih, h4]
    · simp [unescapeChars, ih, h5]
    · exact absurd h6.1 (by simp)
    · simp [unescapeChars_cons h5, ih]

lemma unescapeList_cons {c : Char} (h : c ≠ '\\') (h' : c ≠ ';') (piece rest : List Char) :
    unescapeList piece (c :: rest) = unescapeList (piece ++ [c]) rest := by
  rw [unescapeList]
  · rw [if_neg h']
  · intro hc
    exact absurd hc h
  · intro c' rest' hc
    exact absurd hc h

lemma unescapeList_escapeChars (leading : Bool) (piece s rest : List Char) :
    unescapeList piece (escapeChars true leading s ++ ';' :: rest) =
      (unescapeList [] rest).map ((piece ++ s) :: ·) := by
  induction s generalizing leading piece with
  | nil => simp [escapeChars, unescapeList]
  | cons c s ih =>
    rw [escapeChars]
    split_ifs with h1 hl h2 hl h3 h4 h5 h6
    · simp [unescapeList, ih, h1]
    · simp [unescapeList_cons, ih, h1]
    · simp [unescapeList, ih, h2]
    · simp [unescapeList_cons, ih, h2]
    · simp [unescapeList, ih, h3]
    · simp [unescapeList, ih, h4]
    · simp [unescapeList, ih, h5]
    · simp [unescapeList, ih, h6.2]
    · have hc : c ≠ ';' := fun hc => h6 ⟨rfl, hc⟩
      simp [unescapeList_cons h5 hc, ih]

def escapeList (l : List String) : String :=
  String.ofList (l.flatMap (fun s => escapeChars true true s.toList ++ [';']))

lemma unescapeList_escapeList (l : List String) :
    unescapeList [] (escapeList l).toList = some (l.map String.toList) := by
  unfold escapeList
  rw [String.toList_ofList]
  induction l with
  | nil => simp [unescapeList]
  | cons s rest ih =>
    rw [List.flatMap_cons, List.append_assoc, List.singleton_append, unescapeList_escapeChars, ih]
    simp

end Escapes

section Access

def groups (f : KeyFile) : List String := f.keys

def hasGroup (f : KeyFile) (group : String) : Bool := f.contains group

/-- The text behind a key, if the key is there. -/
def text (f : KeyFile) (group key : String) : Option String := (f.lookup group).bind (·.lookup key)

def value (f : KeyFile) (group key : String) : Except KeyFileError String :=
  match f.text group key with
  | some v => .ok v
  | none => .error (if f.hasGroup group then .keyNotFound group key else .groupNotFound group)

def keysOf (f : KeyFile) (group : String) : List String := ((f.lookup group).map Table.keys).getD []

/-- Stores the text of a value; a missing group is created. -/
def setValue (f : KeyFile) (group key v : String) : KeyFile :=
  f.set group (((f.lookup group).getD Table.empty).set key v)

def removeKey (f : KeyFile) (group key : String) : KeyFile :=
  match f.lookup group with
  | none => f
  | some keys => f.set group (keys.erase key)

def removeGroup (f : KeyFile) (group : String) : KeyFile := f.erase group

/-- Stores a text, or removes the key when there is none. -/
def putText (f : KeyFile) (group key : String) : Option String → KeyFile
  | some v => f.setValue group key v
  | none => f.removeKey group key

/-- Stores or removes one key after the other. -/
def putAll (f : KeyFile) (group : String) (texts : List (String × Option String)) : KeyFile :=
  texts.foldl (fun f e => f.putText group e.1 e.2) f

/-- Stores the texts that are there, one after the other. -/
def setTexts (f : KeyFile) (group : String) (texts : List (String × Option String)) : KeyFile :=
  texts.foldl (fun f e => match e.2 with
    | some v => f.setValue group e.1 v
    | none => f) f

/-- Writes a key file section by section. -/
def ofSections (sections : List (String × List (String × Option String))) : KeyFile :=
  sections.foldl (fun f s => f.setTexts s.1 s.2) Table.empty

def decodeString (v : String) : String := String.ofList (unescapeChars v.toList)

def encodeString (s : String) : String := String.ofList (escapeChars false true s.toList)

def decodeList (v : String) : Option (List String) :=
  (unescapeList [] v.toList).map (·.map String.ofList)

def decodeBoolean (v : String) : Option Bool :=
  if chomp v = "true" ∨ chomp v = "1" then some true
  else if chomp v = "false" ∨ chomp v = "0" then some false
  else none

/-- A number is read from the string value. -/
def decodeUInt64 (v : String) : Option Nat :=
  let s := decodeString v
  if s = "" ∨ (strtoull 10 s).rest ≠ [] then none else some (strtoull 10 s).value

/-- Reads a value with a decoder that may reject the text. -/
def getWith {α : Type} (decode : String → Option α) (f : KeyFile) (group key : String) :
    Except KeyFileError α :=
  match f.value group key with
  | .error e => .error e
  | .ok v =>
    match decode v with
    | none => .error (.invalidValue group key)
    | some a => .ok a

def getString (f : KeyFile) (group key : String) : Except KeyFileError String :=
  f.getWith (fun v => some (decodeString v)) group key

def setString (f : KeyFile) (group key s : String) : KeyFile :=
  f.setValue group key (encodeString s)

def getStringList (f : KeyFile) (group key : String) : Except KeyFileError (List String) :=
  f.getWith decodeList group key

def getBoolean (f : KeyFile) (group key : String) : Except KeyFileError Bool :=
  f.getWith decodeBoolean group key

def getUInt64 (f : KeyFile) (group key : String) : Except KeyFileError Nat :=
  f.getWith decodeUInt64 group key

end Access

section Laws

variable (f : KeyFile) (group group' key key' : String)

@[simp] lemma text_setValue (v : String) :
    (f.setValue group key v).text group' key' =
      if group = group' ∧ key = key' then some v else f.text group' key' := by
  unfold setValue text
  rw [Table.lookup_set]
  by_cases hg : group = group'
  · subst hg
    by_cases hk : key = key'
    · simp [hk]
    · cases hl : f.lookup group with
      | none => simp [hk]
      | some keys => simp [hk]
  · simp [hg]

@[simp] lemma text_removeKey :
    (f.removeKey group key).text group' key' =
      if group = group' ∧ key = key' then none else f.text group' key' := by
  unfold removeKey text
  cases hl : f.lookup group with
  | none =>
    by_cases hg : group = group'
    · subst hg
      simp [hl]
    · simp [hg]
  | some keys =>
    by_cases hg : group = group'
    · subst hg
      by_cases hk : key = key' <;> simp [hk, hl]
    · simp [hg]

@[simp] lemma text_removeGroup :
    (f.removeGroup group).text group' key' = if group =
      group' then none else f.text group' key' := by
  unfold removeGroup text
  rw [Table.lookup_erase]
  by_cases hg : group = group' <;> simp [hg]

lemma text_putText (v : Option String) :
    (f.putText group key v).text group' key' =
      if group = group' ∧ key = key' then v else f.text group' key' := by
  cases v with
  | none => exact text_removeKey f group group' key key'
  | some v => exact text_setValue f group group' key key' v

lemma text_putAll (texts : List (String × Option String)) (hnodup : (texts.map Prod.fst).Nodup) :
    (f.putAll group texts).text group key = (Table.find key texts).getD (f.text group key) := by
  induction texts generalizing f with
  | nil => rfl
  | cons e rest ih =>
    obtain ⟨k, v⟩ := e
    simp only [List.map_cons, List.nodup_cons] at hnodup
    have hstep : f.putAll group ((k, v) :: rest) = (f.putText group k v).putAll group rest := rfl
    rw [hstep, ih _ hnodup.2, text_putText]
    by_cases hk : k = key
    · subst hk
      simp [Table.find, (Table.find_eq_none_iff k rest).mpr hnodup.1]
    · simp [Table.find, hk]

lemma lookup_putText_other (h : group ≠ group') (v : Option String) :
    (f.putText group key v).lookup group' = f.lookup group' := by
  cases v with
  | none =>
    unfold putText removeKey
    cases f.lookup group with
    | none => rfl
    | some keys => simp [h]
  | some v => simp [putText, setValue, h]

lemma lookup_putAll_other (h : group ≠ group') (texts : List (String × Option String)) :
    (f.putAll group texts).lookup group' = f.lookup group' := by
  induction texts generalizing f with
  | nil => rfl
  | cons e rest ih =>
    have hstep : f.putAll group (e :: rest) = (f.putText group e.1 e.2).putAll group rest := rfl
    rw [hstep, ih, lookup_putText_other f group group' e.1 h]

/-- What is written into a group depends on nothing outside the group. -/
lemma lookup_putAll_congr (f' : KeyFile) (h : f.lookup group = f'.lookup group)
    (texts : List (String × Option String)) :
    (f.putAll group texts).lookup group = (f'.putAll group texts).lookup group := by
  induction texts generalizing f f' with
  | nil => exact h
  | cons e rest ih =>
    have hstep : ∀ x : KeyFile, x.putAll group (e :: rest) =
        (x.putText group e.1 e.2).putAll group rest :=
      fun _ => rfl
    rw [hstep, hstep]
    refine ih _ _ ?_
    cases e.2 with
    | some v => simp [putText, setValue, h]
    | none =>
      have hl' := h
      cases hl : f.lookup group with
      | none =>
        rw [hl] at hl'
        simp [putText, removeKey, hl, ← hl']
      | some keys =>
        rw [hl] at hl'
        simp [putText, removeKey, hl, ← hl']

lemma groups_removeKey : (f.removeKey group key).groups = f.groups := by
  unfold removeKey groups
  cases hl : f.lookup group with
  | none => rfl
  | some keys =>
    have hmem : group ∈ f.keys := by
      by_contra hn
      rw [(Table.lookup_eq_none_iff f group).mpr hn] at hl
      exact Option.some_ne_none _ hl.symm
    rw [Table.keys_set, if_pos hmem]

/-- What was done inside a group does not matter once the group is removed. -/
lemma removeGroup_removeKey : (f.removeKey group key).removeGroup group = f.removeGroup group := by
  unfold removeKey removeGroup
  cases f.lookup group with
  | none => rfl
  | some keys => exact Table.erase_set f group (keys.erase key)

lemma groups_removeGroup : (f.removeGroup group).groups = f.groups.filter (· ≠ group) :=
  Table.keys_erase f group

lemma keysOf_eq_nil (h : ∀ key, f.text group key = none) : f.keysOf group = [] := by
  unfold keysOf
  cases hl : f.lookup group with
  | none => rfl
  | some keys =>
    apply (Table.keys_eq_nil_iff keys).mpr
    intro key
    have hkey := h key
    unfold text at hkey
    rwa [hl] at hkey

lemma mem_keysOf : key ∈ f.keysOf group ↔ f.text group key ≠ none := by
  unfold keysOf text
  cases f.lookup group with
  | none => simp
  | some keys =>
    have hmem := (Table.lookup_eq_none_iff keys key).not
    rw [not_not] at hmem
    exact hmem.symm

lemma nodup_keysOf : (f.keysOf group).Nodup := by
  unfold keysOf
  cases f.lookup group with
  | none => exact List.nodup_nil
  | some keys => exact keys.nodup

lemma lookup_setTexts_other (h : group ≠ group') (texts : List (String × Option String)) :
    (f.setTexts group texts).lookup group' = f.lookup group' := by
  induction texts generalizing f with
  | nil => rfl
  | cons e rest ih =>
    obtain ⟨k, v⟩ := e
    cases v with
    | none => exact ih f
    | some v =>
      have hstep : f.setTexts group ((k, some v) :: rest) =
        (f.setValue group k v).setTexts group rest := rfl
      rw [hstep, ih, setValue, Table.lookup_set, if_neg h]

lemma text_setTexts (texts : List (String × Option String)) (hnodup : (texts.map Prod.fst).Nodup) :
    (f.setTexts group texts).text group key =
      (Table.find key texts).join.or (f.text group key) := by
  induction texts generalizing f with
  | nil => rfl
  | cons e rest ih =>
    obtain ⟨k, v⟩ := e
    simp only [List.map_cons, List.nodup_cons] at hnodup
    have hrest : k = key → Table.find key rest = none := by
      rintro rfl
      exact (Table.find_eq_none_iff k rest).mpr hnodup.1
    cases v with
    | none =>
      have hstep : f.setTexts group ((k, none) :: rest) = f.setTexts group rest := rfl
      rw [hstep, ih _ hnodup.2]
      by_cases hk : k = key
      · simp [Table.find, hk, hrest hk]
      · simp [Table.find, hk]
    | some v =>
      have hstep : f.setTexts group ((k, some v) :: rest) =
        (f.setValue group k v).setTexts group rest := rfl
      rw [hstep, ih _ hnodup.2, text_setValue]
      by_cases hk : k = key
      · simp [Table.find, hk, hrest hk]
      · simp [Table.find, hk]

lemma groups_setValue (v : String) :
    (f.setValue group key v).groups = if group ∈ f.groups then f.groups else f.groups ++ [group] :=
  Table.keys_set f group _

/-- A section that stores at least one text appears among the groups. -/
lemma groups_setTexts (texts : List (String × Option String)) (h : group ∉ f.groups) :
    (f.setTexts group texts).groups = if texts.any (·.2.isSome) then f.groups ++ [group]
      else f.groups := by
  have hpresent : ∀ (f : KeyFile) (texts : List (String × Option String)), group ∈ f.groups →
      (f.setTexts group texts).groups = f.groups := by
    intro f texts hmem
    induction texts generalizing f with
    | nil => rfl
    | cons e rest ih =>
      obtain ⟨k, v⟩ := e
      cases v with
      | none => exact ih f hmem
      | some v =>
        have hgroups : (f.setValue group k v).groups = f.groups := by
          rw [groups_setValue, if_pos hmem]
        exact (ih _ (hgroups ▸ hmem)).trans hgroups
  induction texts generalizing f with
  | nil => rfl
  | cons e rest ih =>
    obtain ⟨k, v⟩ := e
    cases v with
    | none => exact ih f h
    | some v =>
      have hgroups : (f.setValue group k v).groups = f.groups ++ [group] := by
        rw [groups_setValue, if_neg h]
      have hstep : f.setTexts group ((k, some v) :: rest) =
        (f.setValue group k v).setTexts group rest := rfl
      rw [hstep, hpresent _ rest (by simp [hgroups]), hgroups]
      simp

@[simp] lemma decodeString_encodeString (s : String) : decodeString (encodeString s) = s := by
  unfold decodeString encodeString
  rw [String.toList_ofList, unescapeChars_escapeChars, String.ofList_toList]

@[simp] lemma decodeList_escapeList (l : List String) : decodeList (escapeList l) = some l := by
  unfold decodeList
  rw [unescapeList_escapeList]
  simp [Function.comp_def]

lemma decodeString_formatNat (n : Nat) : decodeString (formatNat 10 n) = formatNat 10 n := by
  have hplain : '\\' ∉ (formatNat 10 n).toList := by
    intro hc
    rw [formatNat, String.toList_ofList] at hc
    obtain ⟨d, hd, heq⟩ := digitVal_of_mem_toDigits 10 (by decide) (by decide) n hc
    interval_cases d <;> exact absurd heq (by decide)
  unfold decodeString
  rw [unescapeChars_plain hplain, String.ofList_toList]

lemma decodeUInt64_formatNat {n : Nat} (h : n < 2 ^ 64) :
    decodeUInt64 (formatNat 10 n) = some n := by
  have hne : formatNat 10 n ≠ "" := by
    intro hempty
    have hlist := congrArg String.toList hempty
    rw [formatNat, String.toList_ofList] at hlist
    exact Nat.toDigits_ne_nil hlist
  unfold decodeUInt64
  simp only [decodeString_formatNat]
  rw [strtoull_formatNat 10 (by decide) (by decide) n h]
  simp [hne]

end Laws

section Sections

variable (sections : List (String × List (String × Option String)))

/-- The file after some sections, starting from what another part has written. -/
private lemma sections_foldl (f : KeyFile) (hnodup : (sections.map Prod.fst).Nodup)
    (hkeys : ∀ s ∈ sections, (s.2.map Prod.fst).Nodup) (hfresh : ∀ s ∈ sections, s.1 ∉ f.groups) :
    (sections.foldl (fun f s => f.setTexts s.1 s.2) f).groups =
        f.groups ++ (sections.filter (fun s => s.2.any (·.2.isSome))).map Prod.fst ∧
      (∀ group, group ∉ sections.map Prod.fst →
        (sections.foldl (fun f s => f.setTexts s.1 s.2) f).lookup group = f.lookup group) ∧
      ∀ s ∈ sections, ∀ key,
        (sections.foldl (fun f s => f.setTexts s.1 s.2) f).text s.1 key =
          (Table.find key s.2).join := by
  induction sections generalizing f with
  | nil => simp
  | cons s rest ih =>
    simp only [List.map_cons, List.nodup_cons] at hnodup
    have hgroups := groups_setTexts f s.1 s.2 (hfresh s (by simp))
    have hrest : ∀ t ∈ rest, t.1 ∉ (f.setTexts s.1 s.2).groups := by
      intro t ht
      have hne : t.1 ≠ s.1 := by
        intro heq
        exact hnodup.1 (heq ▸ List.mem_map_of_mem ht)
      have hold := hfresh t (by simp [ht])
      rw [hgroups]
      split_ifs <;> simp [hold, hne]
    obtain ⟨hg, hother, htext⟩ :=
      ih (f.setTexts s.1 s.2) hnodup.2 (fun t ht => hkeys t (by simp [ht])) hrest
    simp only [List.foldl_cons]
    refine ⟨?_, ?_, ?_⟩
    · rw [hg, hgroups, List.filter_cons]
      split_ifs <;> simp
    · intro group hgroup
      simp only [List.map_cons, List.mem_cons, not_or] at hgroup
      rw [hother group hgroup.2, lookup_setTexts_other f s.1 group (Ne.symm hgroup.1)]
    · intro t ht key
      rcases List.mem_cons.mp ht with rfl | ht
      · have hsame : (rest.foldl (fun f s => f.setTexts s.1 s.2) (f.setTexts t.1 t.2)).text t.1
            key =
            (f.setTexts t.1 t.2).text t.1 key := by
          unfold text
          rw [hother t.1 hnodup.1]
        have hnew : f.text t.1 key = none := by
          unfold text
          rw [(Table.lookup_eq_none_iff f t.1).mpr (hfresh t (by simp))]
          rfl
        rw [hsame, text_setTexts f t.1 key t.2 (hkeys t (by simp)), hnew, Option.or_none]
      · exact htext t ht key

variable {sections}

lemma groups_ofSections (hnodup : (sections.map Prod.fst).Nodup)
    (hkeys : ∀ s ∈ sections, (s.2.map Prod.fst).Nodup) :
    (ofSections sections).groups = (sections.filter (fun s => s.2.any (·.2.isSome))).map Prod.fst :=
  (sections_foldl sections Table.empty hnodup hkeys (fun _ _ => List.not_mem_nil)).1

lemma text_ofSections (hnodup : (sections.map Prod.fst).Nodup)
    (hkeys : ∀ s ∈ sections, (s.2.map Prod.fst).Nodup) {group : String}
    {texts : List (String × Option String)}
    (hmem : (group, texts) ∈ sections) (key : String) :
    (ofSections sections).text group key = (Table.find key texts).join :=
  (sections_foldl sections Table.empty hnodup hkeys (fun _ _ => List.not_mem_nil)).2.2 _ hmem key

end Sections

end KeyFile

end RaucUpdate.Library
