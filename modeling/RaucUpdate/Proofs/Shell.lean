import Mathlib.Data.List.Perm.Basic
import RaucUpdate.Model.Shell
import RaucUpdate.Proofs.ManifestAccepted

/-!
# What a hook sees of the metadata

Every value of an accepted manifest is written as one assignment, whatever the order of the hash
tables. The variable of a value is not its own: names that only differ in case or in a dash for an
underscore have one variable, and so have a group and a key that are joined at another underscore.
An environment holds all values exactly if no variable stands for two of them.
-/

namespace RaucUpdate

open Library

section Names

/-- The name that is used for a valid key. -/
def envName (key : String) : String := String.ofList
    (key.toList.map (fun c => if c = '-' then '_' else c.toUpper))

lemma rPrepareEnvKey_valid {key : String} (h : EnvKey key) :
    rPrepareEnvKey key = .ok (envName key) := by
  obtain ⟨name, hname⟩ := h
  unfold rPrepareEnvKey at hname ⊢
  split at hname
  · cases hname
  · rfl

lemma toUpper_ne_equals {c : Char} (h : c ≠ '=') : c.toUpper ≠ '=' := by
  unfold Char.toUpper
  split_ifs with hlower
  · intro heq
    have hval := congrArg UInt32.toNat (congrArg Char.val heq)
    have hlow : (97 : UInt32) ≤ c.val := by simpa using hlower.1
    have hhigh : c.val ≤ (122 : UInt32) := by simpa using hlower.2
    rw [UInt32.le_iff_toNat_le] at hlow hhigh
    simp at hval hlow hhigh
    omega
  · exact h

lemma equals_notMem_envName {key : String} (h : EnvKey key) : '=' ∉ (envName key).toList := by
  obtain ⟨name, hname⟩ := h
  unfold rPrepareEnvKey at hname
  split at hname
  · cases hname
  · rename_i hvalid
    unfold envName
    rw [String.toList_ofList]
    intro hmem
    obtain ⟨c, hc, heq⟩ := List.mem_map.mp hmem
    have hc := List.find?_eq_none.mp hvalid c hc
    have hne : c ≠ '=' := by
      rintro rfl
      exact hc (by decide)
    split_ifs at heq with hdash
    · exact absurd heq (by decide)
    · exact toUpper_ne_equals hne heq

end Names

section Entries

/-- A value of the metadata with its group and key. -/
structure MetaEntry where
  group : String
  key : String
  value : String
  deriving DecidableEq

def MetaEntry.name (e : MetaEntry) : String :=
  "RAUC_META_" ++ envName e.group ++ "_" ++ envName e.key

def MetaEntry.assignment (e : MetaEntry) : String := e.name ++ "=" ++ e.value

def groupEntries (group : String) (kvs : Table String String) (keys : List String) :
    List MetaEntry :=
  keys.filterMap (fun key => (kvs.lookup key).map (fun value => ⟨group, key, value⟩))

def RaucManifest.metaEntries (m : RaucManifest) : List MetaEntry :=
  m.metaTable.entries.flatMap (fun e => groupEntries e.1 e.2 e.2.keys)

/-- The entries as a walk through the hash tables finds them. -/
def visitedEntries (order : MetaOrder) (table : Table String (Table String String)) :
    List MetaEntry :=
  (order.labels table).flatMap (fun group =>
    ((table.lookup group).map (fun kvs => groupEntries group kvs (order.keys kvs))).getD [])

variable {order : MetaOrder} {m : RaucManifest}

lemma visitedEntries_perm (order : MetaOrder) (m : RaucManifest) :
    (visitedEntries order m.metaTable).Perm m.metaEntries := by
  have hlabels : m.metaTable.keys.flatMap (fun group =>
      ((m.metaTable.lookup group).map (fun kvs => groupEntries group kvs (order.keys kvs))).getD
        []) =
      m.metaTable.entries.flatMap (fun e => groupEntries e.1 e.2 (order.keys e.2)) := by
    unfold Table.keys
    rw [List.flatMap_map]
    apply List.flatMap_congr
    intro e he
    rw [(Table.lookup_eq_some_iff m.metaTable e.1 e.2).mpr he]
    rfl
  apply ((order.labels_perm m.metaTable).flatMap_right _).trans
  rw [hlabels]
  apply List.Perm.flatMap_left
  intro e _
  exact (order.keys_perm e.2).filterMap _

lemma mem_metaEntries_iff {e : MetaEntry} :
    e ∈ m.metaEntries ↔ ∃ kvs, m.metaTable.lookup e.group = some kvs ∧ kvs.lookup e.key =
      some e.value := by
  unfold RaucManifest.metaEntries groupEntries
  rw [List.mem_flatMap]
  constructor
  · rintro ⟨⟨group, kvs⟩, hkvs, he⟩
    obtain ⟨key, hkey, he⟩ := List.mem_filterMap.mp he
    obtain ⟨value, hvalue, rfl⟩ := Option.map_eq_some_iff.mp he
    exact ⟨kvs, (Table.lookup_eq_some_iff _ _ _).mpr hkvs, hvalue⟩
  · rintro ⟨kvs, hkvs, hvalue⟩
    refine ⟨(e.group, kvs), (Table.lookup_eq_some_iff _ _ _).mp hkvs,
      List.mem_filterMap.mpr ⟨e.key, ?_, ?_⟩⟩
    · exact List.mem_map_of_mem ((Table.lookup_eq_some_iff _ _ _).mp hvalue)
    · simp only [hvalue, Option.map_some]

lemma AcceptedMeta.entry (h : AcceptedMeta m.metaTable) {e : MetaEntry} (he : e ∈ m.metaEntries) :
    EnvKey e.group ∧ EnvKey e.key := by
  obtain ⟨kvs, hkvs, hvalue⟩ := mem_metaEntries_iff.mp he
  obtain ⟨-, hgroup, hkeys⟩ := h e.group kvs hkvs
  exact ⟨hgroup, (hkeys e.key e.value hvalue).2⟩

lemma groupVariables_accepted {group : String} {kvs : Table String String} (hgroup : EnvKey group)
    (hkeys : ∀ key value, kvs.lookup key = some value → EnvKey key) :
    groupVariables order group kvs = (groupEntries group kvs (order.keys kvs)).map
      MetaEntry.assignment := by
  unfold groupVariables groupEntries
  rw [rPrepareEnvKey_valid hgroup, List.map_filterMap]
  apply List.filterMap_congr
  intro key _
  cases hvalue : kvs.lookup key with
  | none => cases rPrepareEnvKey key <;> rfl
  | some value =>
    rw [rPrepareEnvKey_valid (hkeys key value hvalue)]
    rfl

/-- Every value is written as one assignment. -/
lemma rShellFromManifestMeta_accepted (h : AcceptedMeta m.metaTable) (shellVars : List String) :
    rShellFromManifestMeta order shellVars m =
      shellVars ++ (visitedEntries order m.metaTable).map MetaEntry.assignment := by
  unfold rShellFromManifestMeta visitedEntries
  rw [List.map_flatMap]
  congr 1
  apply List.flatMap_congr
  intro group _
  cases hkvs : m.metaTable.lookup group with
  | none => rfl
  | some kvs =>
    obtain ⟨-, hgroup, hkeys⟩ := h group kvs hkvs
    exact groupVariables_accepted hgroup (fun key value hvalue => (hkeys key value hvalue).2)

end Entries

section Environments

variable {order : MetaOrder} {m : RaucManifest} {envp : Table String String}

lemma splitVariable_assignment {e : MetaEntry} (hgroup : EnvKey e.group) (hkey : EnvKey e.key) :
    splitVariable e.assignment = .ok (e.name, e.value) := by
  have hname : '=' ∉ e.name.toList := by
    unfold MetaEntry.name
    simp only [String.toList_append, List.mem_append, not_or]
    exact ⟨⟨⟨by decide, equals_notMem_envName hgroup⟩, by decide⟩, equals_notMem_envName hkey⟩
  have hsplit : splitAtMost '=' 2 e.assignment = [e.name, e.value] :=
    splitAtMost_two '=' e.name e.value hname
  unfold splitVariable
  rw [hsplit]

lemma rEnvironSetenvPtrArray_assignments (overwrite : Bool) (envp : Table String String)
    {entries : List MetaEntry}
    (h : ∀ e ∈ entries, EnvKey e.group ∧ EnvKey e.key) :
    rEnvironSetenvPtrArray overwrite envp (entries.map MetaEntry.assignment) =
      .ok (entries.foldl (fun envp e => environSetenv overwrite envp e.name e.value) envp) := by
  induction entries generalizing envp with
  | nil => rfl
  | cons e rest ih =>
    obtain ⟨hgroup, hkey⟩ := h e List.mem_cons_self
    rw [List.map_cons, List.foldl_cons, rEnvironSetenvPtrArray,
      splitVariable_assignment hgroup hkey]
    exact ih _ (fun e' he' => h e' (List.mem_cons_of_mem e he'))

/-- What is assigned to the variables. -/
def assigned (entries : List MetaEntry) : List (String × String) :=
  entries.map (fun e => (e.name, e.value))

lemma AcceptedMeta.hookEnvironment (h : AcceptedMeta m.metaTable) (order : MetaOrder)
    (envp : Table String String) :
    hookEnvironment order envp m =
      .ok (envp.setAll (assigned (visitedEntries order m.metaTable))) := by
  have hvalid : ∀ e ∈ visitedEntries order m.metaTable, EnvKey e.group ∧ EnvKey e.key :=
    fun e he => h.entry ((visitedEntries_perm order m).mem_iff.mp he)
  unfold RaucUpdate.hookEnvironment Table.setAll assigned
  rw [rShellFromManifestMeta_accepted h, List.nil_append, rEnvironSetenvPtrArray_assignments true
    envp hvalid,
    List.foldl_map]
  rfl

lemma AcceptedMeta.handlerEnvironment (h : AcceptedMeta m.metaTable) (order : MetaOrder)
    (envp : Table String String) :
    handlerEnvironment order envp m =
      .ok (envp.offerAll (assigned (visitedEntries order m.metaTable))) := by
  have hvalid : ∀ e ∈ visitedEntries order m.metaTable, EnvKey e.group ∧ EnvKey e.key :=
    fun e he => h.entry ((visitedEntries_perm order m).mem_iff.mp he)
  unfold RaucUpdate.handlerEnvironment Table.offerAll assigned
  rw [rShellFromManifestMeta_accepted h, List.nil_append, rEnvironSetenvPtrArray_assignments false
    envp hvalid,
    List.foldl_map]
  rfl

/-- Every value is found under its variable. -/
def Carries (m : RaucManifest) (envp : Table String String) : Prop :=
  ∀ e ∈ m.metaEntries, envp.lookup e.name = some e.value

/-- No variable stands for two values. -/
def OneValue (m : RaucManifest) : Prop := ∀ e ∈ m.metaEntries, ∀ e' ∈ m.metaEntries, e.name =
    e'.name → e.value = e'.value

lemma find_assigned {entries : List MetaEntry} {e : MetaEntry} (he : e ∈ entries)
    (hagree : ∀ e' ∈ entries, e'.name = e.name → e'.value = e.value) :
    Table.find e.name (assigned entries) = some e.value := by
  have hmem : (e.name, e.value) ∈ assigned entries :=
    List.mem_map_of_mem (f := fun e => (e.name, e.value)) he
  apply Table.find_of_agree hmem
  intro p hp hname
  obtain ⟨e', he', rfl⟩ := List.mem_map.mp hp
  exact hagree e' he' hname

lemma OneValue.find_visited (h : OneValue m) (order : MetaOrder) {e : MetaEntry}
    (he : e ∈ m.metaEntries) :
    Table.find e.name (assigned (visitedEntries order m.metaTable)) = some e.value ∧
      Table.find e.name (assigned (visitedEntries order m.metaTable)).reverse = some e.value := by
  have hmem : ∀ e', e' ∈ visitedEntries order m.metaTable ↔ e' ∈ m.metaEntries :=
    fun _ => (visitedEntries_perm order m).mem_iff
  constructor
  · apply find_assigned ((hmem e).mpr he)
    exact fun e' he' hname => h e' ((hmem e').mp he') e he hname
  · unfold assigned
    rw [← List.map_reverse]
    apply find_assigned (List.mem_reverse.mpr ((hmem e).mpr he))
    exact fun e' he' hname => h e' ((hmem e').mp (List.mem_reverse.mp he')) e he hname

lemma Carries.oneValue (h : Carries m envp) : OneValue m := by
  intro e he e' he' hname
  have hfirst := h e he
  rw [hname, h e' he'] at hfirst
  exact (Option.some.inj hfirst).symm

lemma carries_setAll_iff (order : MetaOrder) (envp : Table String String) :
    Carries m (envp.setAll (assigned (visitedEntries order m.metaTable))) ↔ OneValue m := by
  refine ⟨Carries.oneValue, fun h e he => ?_⟩
  rw [Table.lookup_setAll, (h.find_visited order he).2, Option.some_or]

/-- Earlier variables of the same names. -/
def Agreeing (m : RaucManifest) (envp : Table String String) : Prop :=
  ∀ e ∈ m.metaEntries, ∀ value, envp.lookup e.name = some value → value = e.value

lemma carries_offerAll_iff (order : MetaOrder) (envp : Table String String) :
    Carries m (envp.offerAll (assigned (visitedEntries order m.metaTable))) ↔ OneValue m ∧
      Agreeing m envp := by
  constructor
  · intro h
    refine ⟨h.oneValue, fun e he value hvalue => ?_⟩
    have hcarried := h e he
    rw [Table.lookup_offerAll, hvalue, Option.some_or] at hcarried
    exact Option.some.inj hcarried
  · rintro ⟨hone, hagree⟩ e he
    rw [Table.lookup_offerAll]
    cases hold : envp.lookup e.name with
    | none => rw [Option.none_or, (hone.find_visited order he).1]
    | some value => rw [hagree e he value hold, Option.some_or]

end Environments

section Orders

variable {m : RaucManifest}

/-- The order of the hash tables cannot be seen in the environment of a hook. -/
def MetaOrderFree (m : RaucManifest) : Prop :=
  ∀ order order' envp env env', hookEnvironment order envp m = .ok env →
    hookEnvironment order' envp m = .ok env' →
    ∀ name, env.lookup name = env'.lookup name

def moveLast (a : String) (l : List String) : List String := if a ∈ l then l.erase a ++ [a] else l

lemma moveLast_perm (a : String) (l : List String) : (moveLast a l).Perm l := by
  unfold moveLast
  split_ifs with h
  · exact (List.perm_append_singleton a (l.erase a)).trans (List.perm_cons_erase h).symm
  · exact List.Perm.refl l

/-- Hash tables in which this entry comes last. -/
def MetaEntry.lastOrder (e : MetaEntry) : MetaOrder where
  labels t := moveLast e.group t.keys
  labels_perm t := moveLast_perm e.group t.keys
  keys t := moveLast e.key t.keys
  keys_perm t := moveLast_perm e.key t.keys

lemma visitedEntries_lastOrder {e : MetaEntry} (he : e ∈ m.metaEntries) :
    ∃ entries, visitedEntries e.lastOrder m.metaTable = entries ++ [e] := by
  obtain ⟨kvs, hkvs, hvalue⟩ := mem_metaEntries_iff.mp he
  have hgroup : e.group ∈ m.metaTable.keys :=
    List.mem_map_of_mem ((Table.lookup_eq_some_iff _ _ _).mp hkvs)
  have hkey : e.key ∈ kvs.keys := List.mem_map_of_mem ((Table.lookup_eq_some_iff _ _ _).mp hvalue)
  have hlabels : e.lastOrder.labels m.metaTable = m.metaTable.keys.erase e.group ++ [e.group] :=
    if_pos hgroup
  have hkeys : e.lastOrder.keys kvs = kvs.keys.erase e.key ++ [e.key] := if_pos hkey
  have hlast : groupEntries e.group kvs [e.key] = [e] := by
    unfold groupEntries
    rw [List.filterMap_cons_some (by rw [hvalue]; rfl), List.filterMap_nil]
  have hgroups : groupEntries e.group kvs (e.lastOrder.keys kvs) =
      groupEntries e.group kvs (kvs.keys.erase e.key) ++ [e] := by
    rw [hkeys, ← hlast]
    exact List.filterMap_append
  unfold visitedEntries
  rw [hlabels, List.flatMap_append, List.flatMap_singleton, hkvs, Option.map_some,
    Option.getD_some, hgroups,
    ← List.append_assoc]
  exact ⟨_, rfl⟩

/-- The entry that comes last stays. -/
lemma lookup_lastOrder (h : AcceptedMeta m.metaTable) {e : MetaEntry} (he : e ∈ m.metaEntries)
    (envp : Table String String) :
    ∃ env, hookEnvironment e.lastOrder envp m = .ok env ∧ env.lookup e.name = some e.value := by
  obtain ⟨entries, hentries⟩ := visitedEntries_lastOrder he
  refine ⟨_, h.hookEnvironment e.lastOrder envp, ?_⟩
  rw [Table.lookup_setAll, hentries]
  simp [assigned, Table.find]

lemma metaOrderFree_iff (h : AcceptedMeta m.metaTable) : MetaOrderFree m ↔ OneValue m := by
  constructor
  · intro hfree e he e' he' hname
    obtain ⟨env, henv, hlookup⟩ := lookup_lastOrder h he Table.empty
    obtain ⟨env', henv', hlookup'⟩ := lookup_lastOrder h he' Table.empty
    have hsame := hfree e.lastOrder e'.lastOrder Table.empty env env' henv henv' e.name
    rw [hlookup, hname, hlookup'] at hsame
    exact Option.some.inj hsame
  · intro hone order order' envp env env' henv henv' name
    rw [h.hookEnvironment] at henv henv'
    obtain rfl := Except.ok.inj henv
    obtain rfl := Except.ok.inj henv'
    rw [Table.lookup_setAll, Table.lookup_setAll]
    by_cases hassigned : ∃ e ∈ m.metaEntries, e.name = name
    · obtain ⟨e, he, rfl⟩ := hassigned
      rw [(hone.find_visited order he).2, (hone.find_visited order' he).2]
    · have hnone : ∀ order, Table.find name (assigned (visitedEntries order m.metaTable)).reverse =
          none := by
        intro order
        rw [Table.find_eq_none_iff, List.mem_map]
        rintro ⟨p, hp, rfl⟩
        obtain ⟨e, he, rfl⟩ := List.mem_map.mp (List.mem_reverse.mp hp)
        exact hassigned ⟨e, (visitedEntries_perm order m).mem_iff.mp he, rfl⟩
      rw [hnone, hnone]

end Orders

/-- For every manifest that is accepted and every order of the hash tables, each value is written as
one assignment, and the assignments are the same up to their order. A hook finds every value, and
finds the same in every order, exactly if no variable stands for two values; a handler finds them if
no earlier variable contradicts them either. -/
theorem metadata_environment (digest : KeyFile → String) (keyFile : KeyFile) (m : RaucManifest)
    (hload : loadManifestMem digest keyFile = .value m) :
    (∀ order shellVars, ∃ entries : List MetaEntry, entries.Perm m.metaEntries ∧
      rShellFromManifestMeta order shellVars m = shellVars ++ entries.map MetaEntry.assignment) ∧
    (∀ order envp, ∃ env, hookEnvironment order envp m = .ok env ∧ (Carries m env ↔ OneValue m)) ∧
    (∀ order envp, ∃ env, handlerEnvironment order envp m = .ok env ∧
      (Carries m env ↔ OneValue m ∧ Agreeing m envp)) ∧
    (MetaOrderFree m ↔ OneValue m) := by
  have haccepted : AcceptedMeta m.metaTable := (loadManifestMem_accepted hload).metaTable
  refine ⟨fun order shellVars => ?_, fun order envp => ?_, fun order envp => ?_,
    metaOrderFree_iff haccepted⟩
  · exact ⟨_, visitedEntries_perm order m, rShellFromManifestMeta_accepted haccepted shellVars⟩
  · exact ⟨_, haccepted.hookEnvironment order envp, carries_setAll_iff order envp⟩
  · exact ⟨_, haccepted.handlerEnvironment order envp, carries_offerAll_iff order envp⟩

section Colliding

/-- A key file with the given sections of metadata. -/
def metaFile (sections : List (String × Table String String))
    (h : ((("update" :: sections.map Prod.fst)).Nodup)) :
    KeyFile :=
  ⟨("update", ⟨[("compatible", "Test System")], List.nodup_singleton "compatible"⟩) :: sections, h⟩

def metaManifest (table : Table String (Table String String)) : RaucManifest where
  updateCompatible := some "Test System"
  metaTable := table
  hash := some ""
  warnings := formatWarnings

def oneKey (key value : String) : Table String String := ⟨[(key, value)], List.nodup_singleton key⟩

def dashManifest : RaucManifest :=
  metaManifest ⟨[("a-b", oneKey "c" "1"), ("a_b", oneKey "c" "2")], by decide⟩

/-- Two groups of an accepted manifest share a variable, and the order of the hash tables decides
which value it has. -/
theorem metadata_collides :
    loadManifestMem (fun _ => "") (metaFile [("meta.a-b", oneKey "c" "1"),
      ("meta.a_b", oneKey "c" "2")] (by decide)) =
      .value dashManifest ∧
    dashManifest.metaEntries = [⟨"a-b", "c", "1"⟩, ⟨"a_b", "c", "2"⟩] ∧
    (MetaEntry.mk "a-b" "c" "1").name = (MetaEntry.mk "a_b" "c" "2").name ∧
    (∃ env, hookEnvironment (MetaEntry.mk "a-b" "c" "1").lastOrder Table.empty dashManifest =
      .ok env ∧
      env.lookup "RAUC_META_A_B_C" = some "1") ∧
    (∃ env, hookEnvironment (MetaEntry.mk "a_b" "c" "2").lastOrder Table.empty dashManifest =
      .ok env ∧
      env.lookup "RAUC_META_A_B_C" = some "2") := by
  refine ⟨by decide +kernel, by decide, by decide,
    ⟨oneKey "RAUC_META_A_B_C" "1", by decide +kernel, by decide⟩,
    ⟨oneKey "RAUC_META_A_B_C" "2", by decide +kernel, by decide⟩⟩

def pollManifest : RaucManifest :=
  metaManifest ⟨[("update", oneKey "poll" "86400"),
    ("version", oneKey "channel" "beta")], by decide⟩

theorem metadata_environment_poll : MetaOrderFree pollManifest := by
  have hone : OneValue pollManifest := by
    unfold OneValue
    decide +kernel
  exact (metadata_environment (fun _ => "")
    (metaFile [("meta.update", oneKey "poll" "86400"), ("meta.version", oneKey "channel" "beta")]
      (by decide)) pollManifest
    (by decide +kernel)).2.2.2.mpr hone

end Colliding

end RaucUpdate
