import RaucUpdate.Model.Manifest

/-!
# Consuming a group

While a section is parsed, the key file differs from the one at the start only inside the group
under way. `Consuming` says which keys of the group have been taken; each reader takes one more.
-/

namespace RaucUpdate

open Library

section Consuming

/-- The text of a key that has not been taken yet. -/
def leftover (texts : List (String × Option String)) (taken : List String) (key : String) :
    Option String :=
  if key ∈ taken then none else (Table.find key texts).join

/-- Some keys of the group have been taken, and nothing else has changed. -/
structure Consuming (f : KeyFile) (group : String) (texts : List (String × Option String))
    (taken : List String)
    (s : KeyFile) : Prop where
  groups : s.groups = f.groups
  others : s.removeGroup group = f.removeGroup group
  texts_left : ∀ key, s.text group key = leftover texts taken key

variable {f : KeyFile} {group key : String} {texts : List (String × Option String)}
  {taken : List String}

lemma leftover_of_notMem (texts : List (String × Option String)) (h : key ∉ taken) :
    leftover texts taken key = (Table.find key texts).join := by
  unfold leftover
  rw [if_neg h]

lemma Consuming.removeKey {s : KeyFile} (h : Consuming f group texts taken s) (key : String) :
    Consuming f group texts (key :: taken) (s.removeKey group key) := by
  refine ⟨?_, ?_, ?_⟩
  · rw [KeyFile.groups_removeKey, h.groups]
  · rw [KeyFile.removeGroup_removeKey, h.others]
  · intro key'
    rw [KeyFile.text_removeKey, h.texts_left]
    by_cases hkey : key = key'
    · simp [leftover, hkey]
    · have hkey' : key' ≠ key := Ne.symm hkey
      simp [leftover, hkey, hkey']

/-- Taking a key that is not there changes nothing. -/
lemma Consuming.takeMissing {s : KeyFile} (h : Consuming f group texts taken s)
    (hnone : leftover texts taken key = none) :
    Consuming f group texts (key :: taken) s := by
  refine ⟨h.groups, h.others, ?_⟩
  intro key'
  rw [h.texts_left]
  by_cases hkey : key' = key
  · rw [hkey, hnone]
    simp [leftover]
  · simp [leftover, hkey]

/-- Reads a string that is not empty. -/
def readString (v : String) : Option String :=
  if KeyFile.decodeString v = "" then none else some (KeyFile.decodeString v)

lemma readString_stringText {s : Option String} (h : s ≠ some "") :
    (stringText s).bind readString = s := by
  cases s with
  | none => rfl
  | some s =>
    have hs : s ≠ "" := fun heq => h (heq ▸ rfl)
    simp [stringText, readString, hs]

lemma consumeString_run (group key : String) (s : KeyFile) (fates : Nat → Fate) :
    keyFileConsumeString group key ⟨s, fates⟩ =
      match s.text group key with
      | none => (.value (.error (ofKeyFileError
          (if s.hasGroup group then .keyNotFound group key else .groupNotFound group))), ⟨s, fates⟩)
      | some v => (.value (if KeyFile.decodeString v = "" then
            .error ⟨.keyFileParse, "Missing value for key '" ++ key ++ "'"⟩
              else .ok (KeyFile.decodeString v)),
          ⟨s.removeKey group key, fates⟩) := by
  have hread : (Prog.read : ParseProg KeyFile) ⟨s, fates⟩ = (.value s, ⟨s, fates⟩) := rfl
  unfold keyFileConsumeString
  rw [Prog.bind_of_value hread]
  unfold KeyFile.getString KeyFile.getWith KeyFile.value
  cases hv : s.text group key with
  | none => rfl
  | some v =>
    by_cases hempty : KeyFile.decodeString v = ""
    · simp only [hempty, if_true]
      rfl
    · simp only [hempty, if_false]
      rfl

/-- What a string reader finds under a key that has not been taken. -/
def found (texts : List (String × Option String)) (key : String) : Option String :=
  (Table.find key texts).join.bind readString

lemma yields_consumeOptional (hkey : key ∉ taken) {value : Option String}
    (hvalue : found texts key = value) :
    Prog.Yields (Consuming f group texts taken) (consumeOptional group key) value
      (Consuming f group texts (key :: taken)) := by
  subst hvalue
  rintro ⟨s, fates⟩ h
  have hrun := consumeString_run group key s fates
  have hleft := leftover_of_notMem texts hkey
  rw [h.texts_left, hleft] at hrun
  unfold found
  cases hv : (Table.find key texts).join with
  | none =>
    rw [hv] at hrun hleft
    have hprog : consumeOptional group key ⟨s, fates⟩ = (.value none, ⟨s, fates⟩) :=
      Prog.bind_of_value hrun
    rw [hprog]
    exact ⟨rfl, h.takeMissing hleft⟩
  | some v =>
    rw [hv] at hrun
    have hprog : consumeOptional group key ⟨s, fates⟩ = _ := Prog.bind_of_value hrun
    rw [hprog]
    refine ⟨?_, h.removeKey key⟩
    by_cases hempty : KeyFile.decodeString v = ""
    · simp only [hempty, if_true, Option.bind_some, readString]
      rfl
    · simp only [hempty, if_false, Option.bind_some, readString]
      rfl

/-- In a group that is there, a key whose value is not empty is found, and a missing key is told
from every other error. -/
lemma yields_consumeIfPresent (hgroup : group ∈ f.groups) (hkey : key ∉ taken)
    {value : Option String}
    (hvalue : found texts key = value) (hnone : value = none → (Table.find key texts).join = none) :
    Prog.Yields (Consuming f group texts taken) (consumeIfPresent group key) value
      (Consuming f group texts (key :: taken)) := by
  subst hvalue
  rintro ⟨s, fates⟩ h
  have hrun := consumeString_run group key s fates
  have hleft := leftover_of_notMem texts hkey
  rw [h.texts_left, hleft] at hrun
  unfold found at hnone ⊢
  cases hv : (Table.find key texts).join with
  | none =>
    have hhas : s.hasGroup group = true := by
      apply (Table.contains_eq_true_iff s group).mpr
      have hgroups : Table.keys s = f.groups := h.groups
      rw [hgroups]
      exact hgroup
    rw [hv] at hrun hleft
    rw [hhas] at hrun
    have hprog : consumeIfPresent group key ⟨s, fates⟩ = (.value none, ⟨s, fates⟩) :=
      Prog.bind_of_value hrun
    rw [hprog]
    exact ⟨rfl, h.takeMissing hleft⟩
  | some v =>
    have hempty : KeyFile.decodeString v ≠ "" := by
      intro hempty
      have hmissing := hnone (by simp [hv, readString, hempty])
      rw [hv] at hmissing
      exact Option.some_ne_none _ hmissing
    rw [hv] at hrun
    simp only [hempty, if_false] at hrun
    have hprog : consumeIfPresent group key ⟨s, fates⟩ =
        (.value (some (KeyFile.decodeString v)), ⟨s.removeKey group key, fates⟩) :=
          Prog.bind_of_value hrun
    rw [hprog]
    refine ⟨?_, h.removeKey key⟩
    simp [readString, hempty]

lemma yields_consumeRequired (hkey : key ∉ taken) {value : String}
    (hvalue : found texts key = some value) :
    Prog.Yields (Consuming f group texts taken) (consumeRequired group key) value
      (Consuming f group texts (key :: taken)) := by
  rintro ⟨s, fates⟩ h
  have hrun := consumeString_run group key s fates
  rw [h.texts_left, leftover_of_notMem texts hkey] at hrun
  unfold found at hvalue
  cases hv : (Table.find key texts).join with
  | none =>
    rw [hv] at hvalue
    exact absurd hvalue (by simp)
  | some v =>
    rw [hv] at hvalue hrun
    by_cases hempty : KeyFile.decodeString v = ""
    · simp [readString, hempty] at hvalue
    · simp only [Option.bind_some, readString, hempty, if_false, Option.some.injEq] at hvalue hrun
      have hprog : consumeRequired group key ⟨s, fates⟩ =
          (.value (KeyFile.decodeString v), ⟨s.removeKey group key, fates⟩) :=
            Prog.bind_of_value hrun
      rw [hprog, hvalue]
      exact ⟨rfl, h.removeKey key⟩

/-- A reader that looks at one value and removes the key. -/
lemma yields_readKey {α : Type} (get : KeyFile → α) {a : α}
    (hget : ∀ s, Consuming f group texts taken s → get s = a) :
    Prog.Yields (Consuming f group texts taken)
      (do
        let keyFile ← Prog.read
        let result := get keyFile
        Prog.modify (fun f => f.removeKey group key)
        return result : ParseProg α) a
      (Consuming f group texts (key :: taken)) := by
  rintro ⟨s, fates⟩ h
  exact ⟨congrArg Outcome.value (hget s h), h.removeKey key⟩

lemma getStringList_toOption (s : KeyFile) :
    (s.getStringList group key).toOption = (s.text group key).bind KeyFile.decodeList := by
  unfold KeyFile.getStringList KeyFile.getWith KeyFile.value
  cases s.text group key with
  | none => rfl
  | some v => cases hd : KeyFile.decodeList v <;> simp [hd, Except.toOption]

lemma yields_consumeStringList (hkey : key ∉ taken) {value : Option (List String)}
    (hvalue : (Table.find key texts).join.bind KeyFile.decodeList = value) :
    Prog.Yields (Consuming f group texts taken) (consumeStringList group key) value
      (Consuming f group texts (key :: taken)) := by
  apply yields_readKey (fun s => (s.getStringList group key).toOption)
  intro s h
  rw [getStringList_toOption, h.texts_left, leftover_of_notMem texts hkey, hvalue]

lemma getUInt64_of_texts (s : KeyFile) (hgroup : group ∈ s.groups) :
    s.getUInt64 group key = match s.text group key with
      | none => .error (.keyNotFound group key)
      | some v => match KeyFile.decodeUInt64 v with
        | none => .error (.invalidValue group key)
        | some n => .ok n := by
  have hhas : s.hasGroup group = true := (Table.contains_eq_true_iff s group).mpr hgroup
  unfold KeyFile.getUInt64 KeyFile.getWith KeyFile.value
  rw [hhas]
  cases s.text group key with
  | none => rfl
  | some v => cases hd : KeyFile.decodeUInt64 v <;> simp [hd]

/-- A size that is stored when it is not negative reads as -1 otherwise. -/
lemma yields_consumeSize (hgroup : group ∈ f.groups) (hkey : "size" ∉ taken) (size : Int64)
    (hsize : (Table.find "size" texts).join =
      if size ≥ 0 then some (formatNat 10 size.toUInt64.toNat) else none) :
    Prog.Yields (Consuming f group texts taken) (consumeSize group) (if size ≥ 0 then size else -1)
      (Consuming f group texts ("size" :: taken)) := by
  apply Prog.yields_read_bind
  intro s h
  have hread : imageSize (s.getUInt64 group "size") = .ok (if size ≥ 0 then size else -1) := by
    rw [getUInt64_of_texts s (h.groups.symm ▸ hgroup), h.texts_left, leftover_of_notMem texts hkey,
      hsize]
    by_cases hpos : size ≥ 0
    · simp only [if_pos hpos, KeyFile.decodeUInt64_formatNat size.toUInt64.toNat_lt, imageSize,
        UInt64.ofNat_toNat,
        Int64.toInt64_toUInt64]
    · simp only [if_neg hpos, imageSize]
  rw [hread]
  apply Prog.yields_bind (M := fun s' => s' = s) (Prog.yields_pure (fun _ hs => hs))
  apply Prog.yields_bind (M := Consuming f group texts ("size" :: taken))
  · apply Prog.yields_modify
    rintro _ rfl
    exact h.removeKey "size"
  · exact Prog.yields_pure (fun _ hs => hs)

/-- A number that is stored when it is not zero. -/
lemma yields_consumeUInt64 (hkey : key ∉ taken) (n : UInt64)
    (hn : (Table.find key texts).join = if n = 0 then none else some (formatNat 10 n.toNat)) :
    Prog.Yields (Consuming f group texts taken) (consumeUInt64 group key) n
      (Consuming f group texts (key :: taken)) := by
  apply yields_readKey (fun s => ((s.getUInt64 group key).toOption.map UInt64.ofNat).getD 0)
  intro s h
  have htext := h.texts_left key
  rw [leftover_of_notMem texts hkey, hn] at htext
  unfold KeyFile.getUInt64 KeyFile.getWith KeyFile.value
  by_cases hzero : n = 0
  · rw [if_pos hzero] at htext
    simp [htext, hzero, Except.toOption]
  · rw [if_neg hzero] at htext
    simp [htext, KeyFile.decodeUInt64_formatNat n.toNat_lt, Except.toOption]

lemma yields_removeKeys (keys : List String) :
    Prog.Yields (Consuming f group texts taken) (removeKeys group keys) ()
      (Consuming f group texts (keys.reverse ++ taken)) := by
  apply Prog.yields_modify
  intro s h
  induction keys generalizing s taken with
  | nil => exact h
  | cons key rest ih => simpa using ih _ (h.removeKey key)

lemma yields_checkRemainingKeys (hall : ∀ e ∈ texts, e.1 ∈ taken) :
    Prog.Yields (Consuming f group texts taken) (checkRemainingKeys group) ()
      (Consuming f group texts taken) := by
  have hnone : ∀ key, leftover texts taken key = none := by
    intro key
    unfold leftover
    split_ifs with hkey
    · rfl
    · rw [(Table.find_eq_none_iff key texts).mpr]
      · rfl
      · intro hmem
        obtain ⟨e, he, rfl⟩ := List.mem_map.mp hmem
        exact hkey (hall e he)
  apply Prog.yields_read_bind
  intro s h
  have hkeys : s.keysOf group = [] :=
    KeyFile.keysOf_eq_nil s group (fun key => (h.texts_left key).trans (hnone key))
  rw [hkeys]
  apply Prog.yields_pure
  rintro _ rfl
  exact h

lemma yields_removeGroup :
    Prog.Yields (Consuming f group texts taken)
      (Prog.modify (fun f => f.removeGroup group) : ParseProg Unit) ()
      (fun s => s = f.removeGroup group) := by
  apply Prog.yields_modify
  intro s h
  exact h.others

lemma yields_closeSection (hall : ∀ e ∈ texts, e.1 ∈ taken) :
    Prog.Yields (Consuming f group texts taken) (closeSection group) () (fun s => s =
      f.removeGroup group) :=
  Prog.yields_bind (yields_checkRemainingKeys hall) yields_removeGroup

lemma yields_checkRemainingGroups :
    Prog.Yields (fun s : KeyFile => s.groups = []) checkRemainingGroups ()
      (fun s => s.groups = []) := by
  apply Prog.yields_read_bind
  intro s h
  rw [h]
  apply Prog.yields_pure
  rintro _ rfl
  exact h

lemma yields_ofExcept {α : Type} {r : Except GError α} {a : α} {P : KeyFile → Prop}
    (h : r = .ok a) :
    Prog.Yields P (ofExcept r) a P := by
  rw [h]
  exact Prog.yields_pure (fun _ hs => hs)

end Consuming

end RaucUpdate
