import Mathlib.Data.List.Nodup
import Mathlib.Data.List.Perm.Basic

/-!
# Insertion-ordered tables

A `Table` is a finite map that remembers the order in which its keys were inserted. The
absence of duplicate keys is a field, so every table read by a client has it. Setting an
existing key replaces the value in place; a new key is appended.
-/

namespace RaucUpdate.Library

structure Table (κ υ : Type) where
  entries : List (κ × υ)
  nodup : (entries.map Prod.fst).Nodup

namespace Table

variable {κ υ : Type}

@[ext] lemma ext_entries {s t : Table κ υ} (h : s.entries = t.entries) : s = t := by
  cases s
  cases t
  simp only at h
  subst h
  rfl

def empty : Table κ υ := ⟨[], List.nodup_nil⟩

def keys (t : Table κ υ) : List κ := t.entries.map Prod.fst

def values (t : Table κ υ) : List υ := t.entries.map Prod.snd

variable [DecidableEq κ]

instance [DecidableEq υ] : DecidableEq (Table κ υ) := fun s t =>
  decidable_of_iff (s.entries = t.entries) ⟨ext_entries, fun h => h ▸ rfl⟩

/-- The value stored under the first matching key of an association list. -/
def find (k : κ) : List (κ × υ) → Option υ
  | [] => none
  | (k', v) :: rest => if k' = k then some v else find k rest

/-- Replaces the value of a key in place, or appends the key. -/
def put (k : κ) (v : υ) : List (κ × υ) → List (κ × υ)
  | [] => [(k, v)]
  | (k', v') :: rest => if k' = k then (k', v) :: rest else (k', v') :: put k v rest

lemma put_keys (k : κ) (v : υ) (l : List (κ × υ)) :
    (put k v l).map Prod.fst = if k ∈ l.map Prod.fst then l.map Prod.fst
      else l.map Prod.fst ++ [k] := by
  induction l with
  | nil => simp [put]
  | cons e rest ih =>
    obtain ⟨k', v'⟩ := e
    by_cases h : k' = k
    · simp [put, h]
    · have h' : k ≠ k' := Ne.symm h
      simp only [put, h, if_false, List.map_cons, ih, List.mem_cons, h', false_or]
      split_ifs <;> simp

lemma put_of_not_mem (k : κ) (v : υ) (l : List (κ × υ)) (h : k ∉ l.map Prod.fst) :
    put k v l = l ++ [(k, v)] := by
  induction l with
  | nil => rfl
  | cons e rest ih =>
    obtain ⟨k', v'⟩ := e
    simp only [List.map_cons, List.mem_cons, not_or] at h
    rw [put, if_neg (Ne.symm h.1), ih h.2]
    rfl

lemma put_nodup (k : κ) (v : υ) (l : List (κ × υ)) (h : (l.map Prod.fst).Nodup) :
    ((put k v l).map Prod.fst).Nodup := by
  rw [put_keys]
  split_ifs with hk
  · exact h
  · exact List.Nodup.append h (List.nodup_singleton k) (by simpa using hk)

lemma find_put (k k' : κ) (v : υ) (l : List (κ × υ)) :
    find k' (put k v l) = if k = k' then some v else find k' l := by
  induction l with
  | nil => simp [put, find]
  | cons e rest ih =>
    obtain ⟨a, b⟩ := e
    by_cases ha : a = k
    · subst ha
      by_cases hk : a = k' <;> simp [put, find, hk]
    · simp only [put, ha, if_false, find, ih]
      by_cases hk : k = k'
      · subst hk
        simp [ha]
      · simp [hk]

lemma find_filter_not (p : κ → Bool) (k : κ) (l : List (κ × υ)) :
    find k (l.filter (fun e => !p e.1)) = if p k then none else find k l := by
  induction l with
  | nil => simp [find]
  | cons e rest ih =>
    obtain ⟨a, b⟩ := e
    by_cases hp : p a
    · simp only [hp, Bool.not_true, Bool.false_eq_true, not_false_eq_true, List.filter_cons_of_neg]
      rw [ih]
      by_cases hk : a = k
      · subst hk
        simp [hp]
      · simp [find, hk]
    · simp only [hp, Bool.not_false, List.filter_cons_of_pos, find]
      rw [ih]
      by_cases hk : a = k
      · subst hk
        simp [hp]
      · simp [hk]

lemma find_eq_none_iff (k : κ) (l : List (κ × υ)) : find k l = none ↔ k ∉ l.map Prod.fst := by
  induction l with
  | nil => simp [find]
  | cons e rest ih =>
    obtain ⟨a, b⟩ := e
    by_cases ha : a = k
    · simp [find, ha]
    · have ha' : k ≠ a := Ne.symm ha
      simp only [find, ha, if_false, ih, List.map_cons, List.mem_cons, ha', false_or]

lemma find_eq_some_iff (k : κ) (v : υ) (l : List (κ × υ)) (h : (l.map Prod.fst).Nodup) :
    find k l = some v ↔ (k, v) ∈ l := by
  induction l with
  | nil => simp [find]
  | cons e rest ih =>
    obtain ⟨a, b⟩ := e
    simp only [List.map_cons, List.nodup_cons] at h
    by_cases ha : a = k
    · subst ha
      have hrest : (a, v) ∉ rest := fun hm => h.1 (List.mem_map.mpr ⟨(a, v), hm, rfl⟩)
      simp [find, hrest, eq_comm]
    · have ha' : k ≠ a := Ne.symm ha
      simp [find, ha, ih h.2, ha']

lemma find_append (k : κ) (l m : List (κ × υ)) : find k (l ++ m) = (find k l).or (find k m) := by
  induction l with
  | nil => rfl
  | cons e rest ih =>
    simp only [List.cons_append, find]
    by_cases hk : e.1 = k
    · simp [hk]
    · simp [hk, ih]

def lookup (t : Table κ υ) (k : κ) : Option υ := find k t.entries

def contains (t : Table κ υ) (k : κ) : Bool := (t.lookup k).isSome

def set (t : Table κ υ) (k : κ) (v : υ) : Table κ υ :=
  ⟨put k v t.entries, put_nodup k v t.entries t.nodup⟩

/-- Removes every key that satisfies the test. -/
def eraseWhere (t : Table κ υ) (p : κ → Bool) : Table κ υ :=
  ⟨t.entries.filter (fun e => !p e.1), t.nodup.sublist (List.filter_sublist.map _)⟩

def erase (t : Table κ υ) (k : κ) : Table κ υ := t.eraseWhere (fun k' => decide (k' = k))

/-- Applies a function to every value. -/
def mapValues {υ' : Type} (t : Table κ υ) (f : υ → υ') : Table κ υ' :=
  ⟨t.entries.map (fun e => (e.1, f e.2)), by simpa [Function.comp_def] using t.nodup⟩

lemma find_map {υ' : Type} (f : υ → υ') (k : κ) (l : List (κ × υ)) :
    find k (l.map (fun e => (e.1, f e.2))) = (find k l).map f := by
  induction l with
  | nil => rfl
  | cons e rest ih =>
    obtain ⟨a, b⟩ := e
    by_cases h : a = k
    · simp [find, h]
    · simp [find, h, ih]

@[simp] lemma lookup_empty (k : κ) : (empty : Table κ υ).lookup k = none := rfl

@[simp] lemma lookup_set (t : Table κ υ) (k k' : κ) (v : υ) :
    (t.set k v).lookup k' = if k = k' then some v else t.lookup k' :=
  find_put k k' v t.entries

@[simp] lemma lookup_eraseWhere (t : Table κ υ) (p : κ → Bool) (k : κ) :
    (t.eraseWhere p).lookup k = if p k then none else t.lookup k :=
  find_filter_not p k t.entries

@[simp] lemma lookup_mapValues {υ' : Type} (t : Table κ υ) (f : υ → υ') (k : κ) :
    (t.mapValues f).lookup k = (t.lookup k).map f :=
  find_map f k t.entries

/-- Changes every value, with a look at its key. -/
def mapEntries {υ' : Type} (t : Table κ υ) (f : κ → υ → υ') : Table κ υ' :=
  ⟨t.entries.map (fun e => (e.1, f e.1 e.2)), by simpa [Function.comp_def] using t.nodup⟩

@[simp] lemma lookup_mapEntries {υ' : Type} (t : Table κ υ) (f : κ → υ → υ') (k : κ) :
    (t.mapEntries f).lookup k = (t.lookup k).map (f k) := by
  change find k (t.entries.map (fun e => (e.1, f e.1 e.2))) = (find k t.entries).map (f k)
  induction t.entries with
  | nil => rfl
  | cons e rest ih =>
    simp only [List.map_cons, find]
    split_ifs with h
    · rw [h]
      rfl
    · exact ih

omit [DecidableEq κ] in
@[simp] lemma keys_mapValues {υ' : Type} (t : Table κ υ) (f : υ → υ') :
    (t.mapValues f).keys = t.keys := by
  simp [keys, mapValues, Function.comp_def]

omit [DecidableEq κ] in
@[simp] lemma values_mapValues {υ' : Type} (t : Table κ υ) (f : υ → υ') :
    (t.mapValues f).values = t.values.map f := by
  simp [values, mapValues, Function.comp_def]

@[simp] lemma lookup_erase (t : Table κ υ) (k k' : κ) :
    (t.erase k).lookup k' = if k = k' then none else t.lookup k' := by
  unfold erase
  rw [lookup_eraseWhere]
  by_cases h : k = k'
  · simp [h]
  · simp [h, Ne.symm h]

lemma lookup_eq_none_iff (t : Table κ υ) (k : κ) : t.lookup k = none ↔ k ∉ t.keys :=
  find_eq_none_iff k t.entries

lemma lookup_eq_some_iff (t : Table κ υ) (k : κ) (v : υ) : t.lookup k = some v ↔
    (k, v) ∈ t.entries :=
  find_eq_some_iff k v t.entries t.nodup

/-- A table is determined by the order of its keys and by what is stored under them. -/
lemma ext_lookup {s t : Table κ υ} (hkeys : s.keys = t.keys) (h : ∀ k, s.lookup k = t.lookup k) :
    s = t := by
  apply ext_entries
  have hlen : s.entries.length = t.entries.length := by
    have hlen := congrArg List.length hkeys
    simpa [keys] using hlen
  apply List.ext_getElem hlen
  intro i hs ht
  have hkey : s.entries[i].1 = t.entries[i].1 := by
    have hi : s.keys[i]? = t.keys[i]? := by rw [hkeys]
    simpa [keys, hs, ht] using hi
  have hvs := (lookup_eq_some_iff s s.entries[i].1 s.entries[i].2).mpr (List.getElem_mem hs)
  have hvt := (lookup_eq_some_iff t t.entries[i].1 t.entries[i].2).mpr (List.getElem_mem ht)
  rw [h, hkey, hvt] at hvs
  exact Prod.ext hkey (Option.some.inj hvs).symm

lemma entries_set_of_lookup_none (t : Table κ υ) (k : κ) (v : υ) (h : t.lookup k = none) :
    (t.set k v).entries = t.entries ++ [(k, v)] :=
  put_of_not_mem k v t.entries ((lookup_eq_none_iff t k).mp h)

lemma keys_set (t : Table κ υ) (k : κ) (v : υ) :
    (t.set k v).keys = if k ∈ t.keys then t.keys else t.keys ++ [k] :=
  put_keys k v t.entries

lemma keys_erase (t : Table κ υ) (k : κ) : (t.erase k).keys = t.keys.filter (· ≠ k) := by
  unfold erase eraseWhere keys
  rw [List.filter_map]
  apply congrArg
  apply List.filter_congr
  intro e _
  simp

/-- A value that is about to be erased might as well not have been set. -/
lemma erase_set (t : Table κ υ) (k : κ) (v : υ) : (t.set k v).erase k = t.erase k := by
  have hput : ∀ l : List (κ × υ),
      (put k v l).filter (fun e => !decide (e.1 = k)) = l.filter (fun e => !decide (e.1 = k)) := by
    intro l
    induction l with
    | nil => simp [put]
    | cons e rest ih =>
      obtain ⟨k', v'⟩ := e
      unfold put
      split_ifs with h
      · subst h
        simp
      · rw [List.filter_cons, List.filter_cons, ih]
  ext1
  exact hput t.entries

lemma keys_eq_nil_iff (t : Table κ υ) : t.keys = [] ↔ ∀ k, t.lookup k = none := by
  simp only [lookup_eq_none_iff]
  exact List.eq_nil_iff_forall_not_mem

lemma contains_eq_true_iff (t : Table κ υ) (k : κ) : t.contains k = true ↔ k ∈ t.keys := by
  unfold contains
  rw [Option.isSome_iff_ne_none, Ne, lookup_eq_none_iff, not_not]

/-- Sets the values of a list one after the other, so that the last one stays. -/
def setAll (t : Table κ υ) (l : List (κ × υ)) : Table κ υ := l.foldl (fun t e => t.set e.1 e.2) t

/-- Sets a value unless there is one already. -/
def offer (t : Table κ υ) (k : κ) (v : υ) : Table κ υ := if t.contains k then t else t.set k v

/-- Offers the values of a list one after the other, so that the first one stays. -/
def offerAll (t : Table κ υ) (l : List (κ × υ)) : Table κ υ :=
  l.foldl (fun t e => t.offer e.1 e.2) t

lemma lookup_setAll (t : Table κ υ) (l : List (κ × υ)) (k : κ) :
    (t.setAll l).lookup k = (find k l.reverse).or (t.lookup k) := by
  unfold setAll
  induction l generalizing t with
  | nil => rfl
  | cons e rest ih =>
    rw [List.foldl_cons, ih, lookup_set, List.reverse_cons, find_append, Option.or_assoc]
    by_cases hk : e.1 = k <;> simp [find, hk]

lemma lookup_offer (t : Table κ υ) (k k' : κ) (v : υ) :
    (t.offer k v).lookup k' = (t.lookup k').or (if k = k' then some v else none) := by
  unfold offer contains
  cases hold : t.lookup k with
  | none =>
    by_cases hk : k = k'
    · subst hk
      simp [hold]
    · simp [hk]
  | some old =>
    by_cases hk : k = k'
    · subst hk
      simp [hold]
    · simp [hk]

lemma lookup_offerAll (t : Table κ υ) (l : List (κ × υ)) (k : κ) :
    (t.offerAll l).lookup k = (t.lookup k).or (find k l) := by
  unfold offerAll
  induction l generalizing t with
  | nil => simp [find]
  | cons e rest ih =>
    rw [List.foldl_cons, ih, lookup_offer, Option.or_assoc]
    by_cases hk : e.1 = k <;> simp [find, hk]

/-- Where all values of a key agree, it does not matter which one is found. -/
lemma find_of_agree {k : κ} {v : υ} {l : List (κ × υ)} (hmem : (k, v) ∈ l)
    (hagree : ∀ e ∈ l, e.1 = k → e.2 = v) :
    find k l = some v := by
  induction l with
  | nil => exact absurd hmem List.not_mem_nil
  | cons e rest ih =>
    unfold find
    by_cases hk : e.1 = k
    · rw [if_pos hk, hagree e List.mem_cons_self hk]
    · rw [if_neg hk]
      apply ih
      · exact (List.mem_cons.mp hmem).resolve_left (fun heq => hk (heq ▸ rfl))
      · exact fun e' he' => hagree e' (List.mem_cons_of_mem e he')

end Table

end RaucUpdate.Library
