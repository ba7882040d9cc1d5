import RaucUpdate.Model.StatusFile

namespace RaucUpdate

open Library

section Reading

variable (iso : Iso8601)

lemma statusString_eq (keyFile : KeyFile) (group key : String) :
    statusString keyFile group key =
      (keyFile.text group key).bind
        (fun v => if KeyFile.decodeString v = "" then none else some (KeyFile.decodeString v)) := by
  unfold statusString KeyFile.getString KeyFile.getWith KeyFile.value
  cases keyFile.text group key with
  | none => rfl
  | some v => rfl

lemma statusCount_eq (keyFile : KeyFile) (group key : String) :
    statusCount keyFile group key =
      (((keyFile.text group key).bind KeyFile.decodeUInt64).map
        (fun n => if n > 2 ^ 32 - 1 then 0 else UInt32.ofNat n)).getD 0 := by
  unfold statusCount KeyFile.getUInt64 KeyFile.getWith KeyFile.value
  cases keyFile.text group key with
  | none => rfl
  | some v => cases hd : KeyFile.decodeUInt64 v <;> simp [hd]

lemma statusSize_eq (keyFile : KeyFile) (group key : String) :
    statusSize keyFile group key =
      (((keyFile.text group key).bind KeyFile.decodeUInt64).map
        (fun n => (UInt64.ofNat n).toInt64)).getD 0 := by
  unfold statusSize KeyFile.getUInt64 KeyFile.getWith KeyFile.value
  cases keyFile.text group key with
  | none => rfl
  | some v => cases hd : KeyFile.decodeUInt64 v <;> simp [hd]

/-- Reading a status depends on nothing outside its group. -/
lemma statusFileGetSlotStatus_congr {f f' : KeyFile} {group : String}
    (h : f.lookup group = f'.lookup group)
    (s : RaucSlotStatus) : statusFileGetSlotStatus iso f group s =
      statusFileGetSlotStatus iso f' group s := by
  have htext : ∀ key, f.text group key = f'.text group key := fun key => by
    unfold KeyFile.text
    rw [h]
  simp only [statusFileGetSlotStatus, statusTimestamp, statusChecksum, statusString_eq,
    statusCount_eq, statusSize_eq, htext]

/-- A group that is not there reads as the fresh status. -/
lemma statusFileGetSlotStatus_absent {f : KeyFile} {group : String} (h : f.lookup group = none) :
    statusFileGetSlotStatus iso f group {} = {} := by
  have htext : ∀ key, f.text group key = none := fun key => by
    unfold KeyFile.text
    rw [h]
    rfl
  simp [statusFileGetSlotStatus, statusTimestamp, statusChecksum, statusString_eq, statusCount_eq,
    htext, rSlotClearStatus]

end Reading

section RoundTrip

variable (iso : Iso8601)

/-- An empty string is read as no string at all. -/
def nonEmpty (s : Option String) : Option String := if s = some "" then none else s

lemma statusString_stringText {f : KeyFile} {group key : String} {s : Option String}
    (h : f.text group key = stringText s) : statusString f group key = nonEmpty s := by
  rw [statusString_eq, h]
  cases s with
  | none => simp [stringText, nonEmpty]
  | some s => simp [stringText, nonEmpty]

lemma statusTimestamp_timestampText {f : KeyFile} {group key : String} {t : Option DateTime}
    (h : f.text group key = timestampText iso t) : statusTimestamp iso f group key = t := by
  unfold statusTimestamp
  rw [statusString_eq, h]
  cases t with
  | none => simp [timestampText]
  | some t => simp [timestampText, iso.format_nonempty, iso.parse_format]

lemma statusCount_countText {f : KeyFile} {group key : String} {n : UInt32}
    (h : f.text group key = countText n) : statusCount f group key = n := by
  have hlt := n.toNat_lt
  rw [statusCount_eq, h, countText]
  split_ifs with hpos
  · simp only [Option.bind_some, KeyFile.decodeUInt64_formatNat (lt_trans hlt (by decide)),
      Option.map_some,
      Option.getD_some]
    rw [if_neg (by omega)]
    exact UInt32.ofNat_toNat
  · simp only [Option.bind_none, Option.map_none, Option.getD_none]
    exact (UInt32.not_lt.mp hpos |> UInt32.le_zero_iff.mp).symm

lemma statusSize_text {f : KeyFile} {group key : String} {n : Int64}
    (h : f.text group key = some (formatNat 10 n.toUInt64.toNat)) : statusSize f group key = n := by
  rw [statusSize_eq, h]
  simp only [Option.bind_some, KeyFile.decodeUInt64_formatNat n.toUInt64.toNat_lt, Option.map_some,
    Option.getD_some,
    UInt64.ofNat_toNat, Int64.toInt64_toUInt64]

/-- What is left of a checksum: nothing at all without a digest. -/
def recordedChecksum (c : RaucChecksum) : RaucChecksum :=
  match nonEmpty (recordedDigest c) with
  | some digest => ⟨.sha256, some digest, c.size⟩
  | none => {}

/-- What is left of a status once it has been written and read back: the transaction id is not
read, empty strings are lost, and so is everything about a checksum without digest. -/
def recordedStatus (s : RaucSlotStatus) : RaucSlotStatus where
  bundleCompatible := nonEmpty s.bundleCompatible
  bundleVersion := nonEmpty s.bundleVersion
  bundleDescription := nonEmpty s.bundleDescription
  bundleBuild := nonEmpty s.bundleBuild
  bundleHash := nonEmpty s.bundleHash
  status := nonEmpty s.status
  checksum := recordedChecksum s.checksum
  installedTxn := none
  installedTimestamp := s.installedTimestamp
  installedCount := s.installedCount
  activatedTimestamp := s.activatedTimestamp
  activatedCount := s.activatedCount

lemma slotStatusTexts_nodup (s : RaucSlotStatus) :
    ((slotStatusTexts iso s).map Prod.fst).Nodup := by
  simp [slotStatusTexts]

/-- Whatever the key file held before, the written status is read back as recorded. -/
lemma statusFile_get_set (f : KeyFile) (group : String) (s : RaucSlotStatus) :
    statusFileGetSlotStatus iso (statusFileSetSlotStatus iso f group s) group {} =
      recordedStatus s := by
  have htext : ∀ key v, Table.find key (slotStatusTexts iso s) = some v →
      (statusFileSetSlotStatus iso f group s).text group key = v := by
    intro key v hv
    unfold statusFileSetSlotStatus
    rw [KeyFile.text_putAll f group key _ (slotStatusTexts_nodup iso s), hv]
    rfl
  have hdigest := statusString_stringText (htext "sha256" _ rfl)
  have hchecksum : statusChecksum (statusFileSetSlotStatus iso f group s) group {} =
      recordedChecksum s.checksum := by
    simp only [recordedChecksum, statusChecksum, hdigest]
    cases hd : recordedDigest s.checksum with
    | none => rfl
    | some digest =>
      have hsize := statusSize_text (n := s.checksum.size)
        ((htext "size" _ rfl).trans (by rw [hd]; rfl))
      cases nonEmpty (some digest) with
      | none => rfl
      | some text => exact congrArg (RaucChecksum.mk .sha256 (some text)) hsize
  unfold statusFileGetSlotStatus
  simp only [rSlotClearStatus]
  rw [hchecksum, statusString_stringText (htext "bundle.compatible" _ rfl),
    statusString_stringText (htext "bundle.version" _ rfl),
    statusString_stringText (htext "bundle.description" _ rfl),
      statusString_stringText (htext "bundle.build" _ rfl),
    statusString_stringText (htext "bundle.hash" _ rfl),
      statusString_stringText (htext "status" _ rfl),
    statusTimestamp_timestampText iso (htext "installed.timestamp" _ rfl),
    statusTimestamp_timestampText iso (htext "activated.timestamp" _ rfl),
    statusCount_countText (htext "installed.count" _ rfl),
      statusCount_countText (htext "activated.count" _ rfl)]
  rfl

/-- The strings of a status that are read back as strings. -/
def statusStrings (s : RaucSlotStatus) : List (Option String) :=
  [s.bundleCompatible, s.bundleVersion, s.bundleDescription, s.bundleBuild, s.bundleHash, s.status,
    s.checksum.digest]

/-- Nothing of the status is lost in a status file: it has no transaction id, no string of it is
empty, and without a digest its checksum is that of a fresh status. -/
def Recordable (s : RaucSlotStatus) : Prop :=
  s.installedTxn = none ∧ (∀ o ∈ statusStrings s, o ≠ some "") ∧
    (s.checksum.digest = none → s.checksum = {})

lemma nonEmpty_eq_self_iff (s : Option String) : nonEmpty s = s ↔ s ≠ some "" := by
  unfold nonEmpty
  split_ifs with h
  · simp [h]
  · simp [h]

lemma recordedChecksum_eq_self_iff (c : RaucChecksum) (hsha : c.digest ≠ none → c.type = .sha256) :
    recordedChecksum c = c ↔ c.digest ≠ some "" ∧ (c.digest = none → c = {}) := by
  obtain ⟨type, digest, size⟩ := c
  cases digest with
  | none =>
    have hnone : recordedDigest ⟨type, none, size⟩ = none := by simp [recordedDigest]
    simp [recordedChecksum, hnone, nonEmpty, eq_comm]
  | some d =>
    obtain rfl : type = .sha256 := hsha (by simp)
    have hsome : recordedDigest ⟨.sha256, some d, size⟩ = some d := by simp [recordedDigest]
    by_cases hd : d = ""
    · subst hd
      simp [recordedChecksum, hsome, nonEmpty]
    · simp [recordedChecksum, hsome, nonEmpty, hd]

lemma recordedStatus_eq_self_iff (s : RaucSlotStatus)
    (hsha : s.checksum.digest ≠ none → s.checksum.type = .sha256) : recordedStatus s = s ↔
      Recordable s := by
  have hchecksum := recordedChecksum_eq_self_iff s.checksum hsha
  have hfields : recordedStatus s = s ↔
      nonEmpty s.bundleCompatible = s.bundleCompatible ∧ nonEmpty s.bundleVersion =
        s.bundleVersion ∧
      nonEmpty s.bundleDescription = s.bundleDescription ∧ nonEmpty s.bundleBuild = s.bundleBuild ∧
      nonEmpty s.bundleHash = s.bundleHash ∧ nonEmpty s.status = s.status ∧
      recordedChecksum s.checksum = s.checksum ∧ s.installedTxn = none := by
    obtain ⟨compatible, version, description, build, hash, status, checksum, txn, it, ic,
      at', ac⟩ := s
    simp [recordedStatus, eq_comm]
  rw [hfields, hchecksum]
  simp only [nonEmpty_eq_self_iff, Recordable, statusStrings, List.forall_mem_cons,
    List.not_mem_nil,
    false_imp_iff, implies_true, and_true]
  tauto

end RoundTrip

section SharedFile

variable (iso : Iso8601)

lemma slotGroup_inj {n n' : String} (h : slotGroup n = slotGroup n') : n = n' := by
  have hlist := congrArg String.toList h
  simp only [slotGroup, String.toList_append] at hlist
  exact String.toList_inj.mp (List.append_cancel_left hlist)

lemma hasPrefix_slotGroup (n : String) : hasPrefix "slot." (slotGroup n) = true := by
  simp [hasPrefix, slotGroup, String.toList_append]

lemma hasPrefix_system_slotGroup (n : String) : hasPrefix "system" (slotGroup n) = false := by
  simp only [hasPrefix, slotGroup, String.toList_append]
  rfl

/-- A group with the prefix of the slot groups is the group of the name behind the prefix. -/
lemma slotGroup_drop {group : String} (h : hasPrefix "slot." group = true) :
    slotGroup (String.ofList (group.toList.drop "slot.".toList.length)) = group := by
  obtain ⟨rest, hrest⟩ := List.isPrefixOf_iff_prefix.mp h
  rw [← hrest, List.drop_left]
  refine String.toList_inj.mp ?_
  rw [slotGroup, String.toList_append, ← hrest]
  exact congrArg _ String.toList_ofList

lemma writeSlotStatuses_cons (f : KeyFile) (slot : RaucSlot) (rest : List RaucSlot) :
    writeSlotStatuses iso f (slot :: rest) =
      writeSlotStatuses iso (match slot.status with
        | none => f
        | some status => statusFileSetSlotStatus iso f (slotGroup slot.name) status) rest := rfl

lemma lookup_writeSlotStatuses_other (f : KeyFile) (order : List RaucSlot) (group : String)
    (h : ∀ s ∈ order, slotGroup s.name ≠ group) : (writeSlotStatuses iso f order).lookup group =
      f.lookup group := by
  induction order generalizing f with
  | nil => rfl
  | cons slot rest ih =>
    rw [writeSlotStatuses_cons, ih _ (fun s hs => h s (by simp [hs]))]
    cases slot.status with
    | none => rfl
    | some status => exact KeyFile.lookup_putAll_other f _ _ (h slot (by simp)) _

/-- The group of a slot holds what is written for its status, whatever the hash order. -/
lemma lookup_writeSlotStatuses_self (f : KeyFile) (order : List RaucSlot)
    (hnodup : (order.map RaucSlot.name).Nodup)
    (slot : RaucSlot) (hslot : slot ∈ order) (status : RaucSlotStatus)
    (hstatus : slot.status = some status) :
    (writeSlotStatuses iso f order).lookup (slotGroup slot.name) =
      (statusFileSetSlotStatus iso f (slotGroup slot.name) status).lookup
        (slotGroup slot.name) := by
  induction order generalizing f with
  | nil => exact absurd hslot List.not_mem_nil
  | cons t rest ih =>
    simp only [List.map_cons, List.nodup_cons] at hnodup
    rw [writeSlotStatuses_cons]
    rcases List.mem_cons.mp hslot with rfl | hslot
    · rw [hstatus]
      refine lookup_writeSlotStatuses_other iso _ rest _ ?_
      intro s hs heq
      exact hnodup.1 (slotGroup_inj heq ▸ List.mem_map_of_mem hs)
    · rw [ih _ hnodup.2 hslot]
      refine KeyFile.lookup_putAll_congr _ _ _ ?_ _
      cases ht : t.status with
      | none => rfl
      | some status' =>
        refine KeyFile.lookup_putAll_other f _ _ ?_ _
        intro heq
        exact hnodup.1 (slotGroup_inj heq ▸ List.mem_map_of_mem hslot)

/-- A slot-status save leaves every group that is not a slot group as it is. -/
lemma lookup_saveSlotStatusGlobally_other (file : StatusFile) (order : List RaucSlot)
    (group : String)
    (h : hasPrefix "slot." group = false) :
    (saveSlotStatusGlobally iso file order).lookup group = file.load.lookup group := by
  unfold saveSlotStatusGlobally keyFileInitFromSharedStatusFile
  rw [lookup_writeSlotStatuses_other]
  · simp [h]
  · rintro s - rfl
    rw [hasPrefix_slotGroup] at h
    exact absurd h (by decide)

/-- A slot-status save writes for every slot exactly its status, into an empty group. -/
lemma lookup_saveSlotStatusGlobally_self (file : StatusFile) (order : List RaucSlot)
    (hnodup : (order.map RaucSlot.name).Nodup) (slot : RaucSlot) (hslot : slot ∈ order)
    (status : RaucSlotStatus)
    (hstatus : slot.status = some status) :
    (saveSlotStatusGlobally iso file order).lookup (slotGroup slot.name) =
      (statusFileSetSlotStatus iso Table.empty (slotGroup slot.name) status).lookup
        (slotGroup slot.name) := by
  unfold saveSlotStatusGlobally
  rw [lookup_writeSlotStatuses_self iso _ order hnodup slot hslot status hstatus]
  refine KeyFile.lookup_putAll_congr _ _ _ ?_ _
  simp [keyFileInitFromSharedStatusFile, hasPrefix_slotGroup]

/-- A system-status save leaves the slot groups as they are. -/
lemma lookup_rSystemStatusSave_slot (file : StatusFile) (bootId : String) (group : String)
    (h : hasPrefix "slot." group = true) :
    (rSystemStatusSave file bootId).lookup group = file.load.lookup group := by
  rw [← slotGroup_drop h]
  unfold rSystemStatusSave KeyFile.setString KeyFile.setValue keyFileInitFromSharedStatusFile
  have hne : "system" ≠ slotGroup (String.ofList (group.toList.drop "slot.".toList.length)) := by
    intro heq
    have hsys := hasPrefix_slotGroup (String.ofList (group.toList.drop "slot.".toList.length))
    rw [← heq] at hsys
    exact absurd hsys (by decide)
  rw [Table.lookup_set, if_neg hne, Table.lookup_eraseWhere, hasPrefix_system_slotGroup]
  rfl

/-- Loading gives a slot without status the status of its group. -/
lemma lookup_loadSlotGroups (f : KeyFile) (groups : List String) (slots : SlotTable) (n : String)
    (slot : RaucSlot)
    (hslot : slots.lookup n = some slot) :
    (loadSlotGroups iso f groups slots).lookup n =
      some (if slot.status = none ∧ slotGroup n ∈ groups then
        slot.withStatus (statusFileGetSlotStatus iso f (slotGroup n) {}) else slot) := by
  induction groups generalizing slots slot with
  | nil => simp [loadSlotGroups, hslot]
  | cons group rest ih =>
    unfold loadSlotGroups
    by_cases hpre : hasPrefix "slot." group = true
    · rw [if_pos hpre]
      have hgroup := slotGroup_drop hpre
      generalize String.ofList (group.toList.drop "slot.".toList.length) = name at hgroup
      simp only
      subst hgroup
      by_cases hname : name = n
      · subst hname
        simp only [hslot]
        cases hstatus : slot.status with
        | some status =>
          simp only
          rw [ih slots slot hslot]
          simp [hstatus]
        | none =>
          simp only
          rw [ih _ _ (by rw [Table.lookup_set, if_pos rfl])]
          simp
      · have hmem : slotGroup n ∈ slotGroup name :: rest ↔ slotGroup n ∈ rest := by
          rw [List.mem_cons, or_iff_right]
          exact fun heq => hname (slotGroup_inj heq).symm
        simp only [hmem]
        cases hother : slots.lookup name with
        | none =>
          simp only
          exact ih slots slot hslot
        | some other =>
          cases hstatus : other.status with
          | some status =>
            simp only [hstatus]
            exact ih slots slot hslot
          | none =>
            simp only [hstatus]
            exact ih _ slot (by rw [Table.lookup_set, if_neg hname, hslot])
    · rw [if_neg hpre, ih slots slot hslot]
      have hmem : slotGroup n ∈ group :: rest ↔ slotGroup n ∈ rest := by
        rw [List.mem_cons, or_iff_right]
        rintro rfl
        exact hpre (hasPrefix_slotGroup n)
      simp only [hmem]

lemma lookup_loadSlotGroups_none (f : KeyFile) (groups : List String) (slots : SlotTable)
    (n : String)
    (hslot : slots.lookup n = none) : (loadSlotGroups iso f groups slots).lookup n = none := by
  induction groups generalizing slots with
  | nil => exact hslot
  | cons group rest ih =>
    unfold loadSlotGroups
    by_cases hpre : hasPrefix "slot." group = true
    · rw [if_pos hpre]
      generalize String.ofList (group.toList.drop "slot.".toList.length) = name
      cases hother : slots.lookup name with
      | none =>
        simp only [hother]
        exact ih slots hslot
      | some other =>
        simp only [hother]
        cases hstatus : other.status with
        | some status => exact ih slots hslot
        | none =>
          have hname : name ≠ n := by
            rintro rfl
            rw [hslot] at hother
            exact Option.some_ne_none _ hother.symm
          exact ih _ (by rw [Table.lookup_set, if_neg hname, hslot])
    · rw [if_neg hpre]
      exact ih slots hslot

/-- Loading adds no slot. -/
lemma lookup_rSlotStatusLoadGlobally_none (file : StatusFile) (slots : SlotTable) (n : String)
    (hslot : slots.lookup n = none) : (rSlotStatusLoadGlobally iso file slots).lookup n = none := by
  unfold rSlotStatusLoadGlobally
  rw [Table.lookup_mapValues, lookup_loadSlotGroups_none iso _ _ slots n hslot]
  rfl

/-- The load-once guard: a slot keeps the status it has, and a slot without status gets the one
of its group, which is the fresh status when the group is missing. -/
lemma lookup_rSlotStatusLoadGlobally (file : StatusFile) (slots : SlotTable) (n : String)
    (slot : RaucSlot)
    (hslot : slots.lookup n = some slot) :
    (rSlotStatusLoadGlobally iso file slots).lookup n =
      some (slot.withStatus (slot.status.getD (statusFileGetSlotStatus iso file.load
        (slotGroup n) {}))) := by
  unfold rSlotStatusLoadGlobally
  rw [Table.lookup_mapValues, lookup_loadSlotGroups iso _ _ slots n slot hslot]
  cases hstatus : slot.status with
  | some status => simp [hstatus]
  | none =>
    by_cases hmem : slotGroup n ∈ file.load.groups
    · simp [hmem]
    · have habsent : file.load.lookup (slotGroup n) = none :=
        (Table.lookup_eq_none_iff _ _).mpr hmem
      simp [hmem, hstatus, statusFileGetSlotStatus_absent iso habsent]

end SharedFile

section SlotStatusRoundTrip

variable (iso : Iso8601)

/-- A status survives being written and read back, in a file of its own and in the shared file,
exactly when it is recordable. -/
theorem slotStatus_roundTrip_iff (s : RaucSlotStatus)
    (hsha : s.checksum.digest ≠ none → s.checksum.type = .sha256) :
    (rSlotStatusRead iso (rSlotStatusWrite iso s) {} = s ∧
      ∀ (file : StatusFile) (order : List RaucSlot) (slots : SlotTable) (slot loaded : RaucSlot),
        (order.map RaucSlot.name).Nodup → slot ∈ order → slot.status = some s →
        slots.lookup slot.name = some loaded → loaded.status = none →
        ((rSlotStatusLoadGlobally iso (.content (saveSlotStatusGlobally iso file order))
          slots).lookup
          slot.name).bind RaucSlot.status = some s) ↔ Recordable s := by
  have hlocal : rSlotStatusRead iso (rSlotStatusWrite iso s) {} = recordedStatus s :=
    statusFile_get_set iso Table.empty "slot" s
  rw [hlocal, ← recordedStatus_eq_self_iff s hsha]
  refine ⟨fun h => h.1, fun h => ⟨h, ?_⟩⟩
  intro file order slots slot loaded hnodup hslot hstatus hlookup hnone
  have hgroup := lookup_saveSlotStatusGlobally_self iso file order hnodup slot hslot s hstatus
  rw [lookup_rSlotStatusLoadGlobally iso _ slots slot.name loaded hlookup, hnone]
  simp only [Option.getD_none, Option.bind_some, RaucSlot.withStatus_status, StatusFile.load]
  rw [statusFileGetSlotStatus_congr iso hgroup, statusFile_get_set, h]

/-- Time stamps as offsets from the epoch, which itself is written as ISO 8601 writes it. -/
def epochIso : Iso8601 where
  format t :=
    if t = 0 then "1970-01-01T00:00:00Z"
    else String.ofList ((if t < 0 then '-' else '+') :: Nat.toDigits 10 t.natAbs)
  parse s :=
    match s.toList with
    | '-' :: digits => some (-((takeDigits 10 0 digits).1 : Int))
    | '+' :: digits => some ((takeDigits 10 0 digits).1 : Int)
    | _ => if s = "1970-01-01T00:00:00Z" then some 0 else none
  parse_format t := by
    by_cases h : t = 0
    · subst h
      decide
    · rw [if_neg h, String.toList_ofList]
      by_cases hneg : t < 0
      · have habs : -(t.natAbs : Int) = t :=
          Int.neg_eq_comm.mp (Int.ofNat_natAbs_of_nonpos hneg.le).symm
        simp only [hneg, if_true, takeDigits_toDigits 10 (by decide) (by decide)]
        rw [habs]
      · have habs : (t.natAbs : Int) = t := Int.natAbs_of_nonneg (not_lt.mp hneg)
        simp only [hneg, if_false, takeDigits_toDigits 10 (by decide) (by decide)]
        rw [habs]
  format_nonempty t := by
    by_cases h : t = 0
    · subst h
      decide
    · rw [if_neg h]
      intro hempty
      have hlist := congrArg String.toList hempty
      rw [String.toList_ofList] at hlist
      exact List.cons_ne_nil _ _ hlist

/-- The status `update_slot_status` leaves behind, with the given transaction id. -/
def installedStatus (txn : Option String) : RaucSlotStatus where
  bundleCompatible := some "Test System"
  bundleVersion := some "2024.11"
  status := some "ok"
  checksum := ⟨.sha256, some "b94d27b9934d3e08a52e52d7da7dabfac484efe37a5380ee9088f7ace2efcde9",
    1024⟩
  installedTxn := txn
  installedTimestamp := some 0
  installedCount := 1

theorem slotStatus_roundTrip_without_transaction :
    rSlotStatusRead epochIso (rSlotStatusWrite epochIso (installedStatus none)) {} =
      installedStatus none :=
  ((slotStatus_roundTrip_iff epochIso (installedStatus none) (by decide)).mpr
    ⟨by decide, by decide, by decide⟩).1

/-- The transaction id of an installation is written and not read. -/
theorem transaction_id_lost :
    rSlotStatusRead epochIso (rSlotStatusWrite epochIso
        (installedStatus (some "a4d5e9a0-5c4b-4a0a-8d5c-0d2b6a1f7e11"))) {} ≠
      installedStatus (some "a4d5e9a0-5c4b-4a0a-8d5c-0d2b6a1f7e11") := by
  decide +kernel

end SlotStatusRoundTrip

end RaucUpdate
