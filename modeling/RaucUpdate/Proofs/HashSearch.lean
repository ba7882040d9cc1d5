import RaucUpdate.Proofs.HashIndex

/-!
# The search in a hash index

The sorted table consists of the chunks with a smaller hash, those with the searched one in
ascending order, and the others. Where the bisection lands matters only for a run that begins with
the table.
-/

namespace RaucUpdate

open Library Prog

section Tables

/-- What every index has that is built: its table is the sorted one, small enough and at least as
long as the count. -/
structure Searchable (idx : RaucHashIndex) : Prop where
  lookup : idx.lookup = buildLookup idx.hashes
  small : idx.hashes.length < 2 ^ 32
  count : idx.count ≤ idx.hashes.length / sha256Len

/-- The chunks that have a hash, as far as there are hashes. -/
def sameChunks (idx : RaucHashIndex) (hash : List UInt8) : List Nat :=
  (List.range (idx.hashes.length / sha256Len)).filter (fun i => hashAt idx.hashes i == hash)

/-- The number of chunks whose hash is smaller. -/
def smallerChunks (idx : RaucHashIndex) (hash : List UInt8) : Nat :=
  (List.range (idx.hashes.length / sha256Len)).countP
    (fun i => compare (hashAt idx.hashes i) hash == .lt)

variable {idx : RaucHashIndex} {hash : List UInt8}

lemma mem_sameChunks {i : Nat} :
    i ∈ sameChunks idx hash ↔ i < idx.hashes.length / sha256Len ∧ hashAt idx.hashes i = hash := by
  unfold sameChunks
  rw [List.mem_filter, List.mem_range, beq_iff_eq]

lemma ascending_sameChunks (idx : RaucHashIndex) (hash : List UInt8) :
    (sameChunks idx hash).Pairwise (· < ·) :=
  List.pairwise_lt_range.filter _

lemma Searchable.parts (h : Searchable idx) (hash : List UInt8) :
    ∃ below above, idx.lookup = below ++ (sameChunks idx hash ++ above) ∧
      (∀ i ∈ below, compare (hashAt idx.hashes i) hash = .lt) ∧
      (∀ i ∈ above, compare (hashAt idx.hashes i) hash = .gt) ∧ below.length =
        smallerChunks idx hash := by
  obtain ⟨below, above, hparts, hbelow, habove, hlength⟩ := sortPositions_parts
    (fun i => (idx.hashes.drop (i * sha256Len % 2 ^ 32)).take sha256Len)
      (idx.hashes.length / sha256Len) hash
  have hkey : ∀ i ∈ idx.lookup, (idx.hashes.drop (i * sha256Len % 2 ^ 32)).take sha256Len =
      hashAt idx.hashes i := by
    intro i hi
    rw [h.lookup] at hi
    exact hashAt_of_small h.small (mem_buildLookup.mp hi)
  have hlookup : idx.lookup = below ++ (sameChunks idx hash ++ above) := by
    rw [h.lookup]
    unfold buildLookup
    rw [hparts]
    congr 2
    apply List.filter_congr
    intro i hi
    rw [hashAt_of_small h.small (List.mem_range.mp hi), Bool.eq_iff_iff, beq_iff_eq, beq_iff_eq]
    exact Std.LawfulEqCmp.compare_eq_iff_eq
  refine ⟨below, above, hlookup, ?_, ?_, ?_⟩
  · intro i hi
    rw [← hkey i (hlookup ▸ List.mem_append_left _ hi)]
    exact hbelow i hi
  · intro i hi
    rw [← hkey i (hlookup ▸ List.mem_append_right _ (List.mem_append_right _ hi))]
    exact habove i hi
  · rw [hlength]
    apply List.countP_congr
    intro i hi
    rw [hashAt_of_small h.small (List.mem_range.mp hi)]

lemma Searchable.length (h : Searchable idx) :
    idx.lookup.length = idx.hashes.length / sha256Len := by
  rw [h.lookup, length_buildLookup]

/-- How the entries compare with the hash. -/
lemma Searchable.compare_entry (h : Searchable idx) (hash : List UInt8) {i : Nat}
    (hi : i < idx.lookup.length) :
    compare (hashAt idx.hashes (idx.lookup.getD i 0)) hash =
      if i < smallerChunks idx hash then .lt
      else if i < smallerChunks idx hash + (sameChunks idx hash).length then .eq else .gt := by
  obtain ⟨below, above, hparts, hbelow, habove, hlength⟩ := h.parts hash
  rw [List.getD_eq_getElem?_getD, List.getElem?_eq_getElem hi, Option.getD_some]
  have hmem := List.getElem_mem hi
  have hat : idx.lookup[i]? = some idx.lookup[i] := List.getElem?_eq_getElem hi
  generalize idx.lookup[i] = curr at *
  rw [hparts] at hat
  by_cases hlow : i < smallerChunks idx hash
  · rw [if_pos hlow]
    rw [List.getElem?_append_left (by omega)] at hat
    exact hbelow curr (List.mem_of_getElem? hat)
  · rw [if_neg hlow]
    rw [List.getElem?_append_right (by omega)] at hat
    by_cases hmid : i < smallerChunks idx hash + (sameChunks idx hash).length
    · rw [if_pos hmid]
      rw [List.getElem?_append_left (by omega)] at hat
      rw [(mem_sameChunks.mp (List.mem_of_getElem? hat)).2]
      exact Std.compare_self
    · rw [if_neg hmid]
      rw [List.getElem?_append_right (by omega)] at hat
      exact habove curr (List.mem_of_getElem? hat)

end Tables

section Accesses

variable {idx : RaucHashIndex} {hash : List UInt8}

lemma Searchable.entryIn_eq (h : Searchable idx) {i : Nat} (hi : i < idx.lookup.length) :
    entryIn idx i = some (hashAt idx.hashes (idx.lookup.getD i 0)) := by
  unfold entryIn
  rw [List.getD_eq_getElem?_getD, List.getElem?_eq_getElem hi, Option.getD_some]
  have hmem : idx.lookup[i] < idx.hashes.length / sha256Len :=
    mem_buildLookup.mp (h.lookup ▸ List.getElem_mem hi)
  change (if _ then _ else _) = _
  rw [if_pos (by unfold sha256Len at *; omega)]

lemma Searchable.firstValidIn_eq (h : Searchable idx) (hash : List UInt8) (left i : Nat)
    (hleft : i + left ≤ idx.lookup.length) :
    firstValidIn idx hash left i = some (firstValid idx hash ((idx.lookup.drop i).take left)) := by
  induction left generalizing i with
  | zero => rfl
  | succ left ih =>
    have hi : i < idx.lookup.length := by omega
    rw [List.drop_eq_getElem_cons hi, List.take_succ_cons, firstValidIn, firstValid,
      h.entryIn_eq hi,
      List.getElem?_eq_getElem hi, List.getD_eq_getElem?_getD, List.getElem?_eq_getElem hi,
        Option.getD_some]
    change (if _ then _ else _) = _
    by_cases hsame : hashAt idx.hashes idx.lookup[i] ≠ hash
    · rw [if_pos hsame, if_pos hsame]
    · rw [if_neg hsame, if_neg hsame]
      by_cases hfrom : idx.invalidFrom ≤ idx.lookup[i]
      · rw [if_pos hfrom, if_pos hfrom]
      · rw [if_neg hfrom, if_neg hfrom]
        by_cases hbelow : idx.lookup[i] < idx.invalidBelow
        · rw [if_pos hbelow, if_pos hbelow]
          exact ih (i + 1) (by omega)
        · rw [if_neg hbelow, if_neg hbelow]

/-- All accesses of the search lie in the tables, and its loops end. -/
lemma Searchable.searchChunkIn_eq (h : Searchable idx) (hcount : idx.count ≠ 0)
    (hash : List UInt8) :
    searchChunkIn idx hash = some (searchChunk idx hash) := by
  have hlength : idx.count ≤ idx.lookup.length := h.length ▸ h.count
  have hcmp : ∀ i < idx.lookup.length, (entryIn idx i).map (compare · hash) =
      some (compare (hashAt idx.hashes (idx.lookup.getD i 0)) hash) := by
    intro i hi
    rw [h.entryIn_eq hi]
    rfl
  have hsame : ∀ i < idx.lookup.length, (entryIn idx i).map (· == hash) =
      some (hashAt idx.hashes (idx.lookup.getD i 0) == hash) := by
    intro i hi
    rw [h.entryIn_eq hi]
    rfl
  unfold searchChunkIn searchChunk
  dsimp only
  rw [if_neg hcount, bisectIn_eq hcmp idx.count 0 (idx.count - 1) (by omega) (by omega)]
  cases hbisect : bisect (fun i => compare (hashAt idx.hashes (idx.lookup.getD i 0)) hash)
    idx.count 0 (idx.count - 1) with
  | none => rfl
  | some found =>
    obtain ⟨heq, -, hle⟩ := bisect_sound hbisect
    have hfound : (hashAt idx.hashes (idx.lookup.getD found 0) == hash) = true :=
      beq_iff_eq.mpr (Std.LawfulEqCmp.compare_eq_iff_eq.mp heq)
    obtain ⟨-, hstart⟩ :=
      runStart_same (fun i => hashAt idx.hashes (idx.lookup.getD i 0) == hash) hfound
      (le_refl found) hfound
    have hwalk : runStartIn (fun i => (entryIn idx i).map (· == hash)) found found =
        some (runStart _ found found) :=
      runStartIn_eq (fun j hj => hsame j (by omega))
    dsimp only [Option.bind_eq_bind, Option.bind_some]
    rw [hwalk]
    dsimp only [Option.bind_eq_bind, Option.bind_some]
    generalize runStart (fun i => hashAt idx.hashes (idx.lookup.getD i 0) == hash) found found =
      middle at *
    rw [h.firstValidIn_eq hash (idx.count - middle) middle (by omega), List.drop_take]
    cases hvalid : firstValid idx hash ((idx.lookup.drop middle).take (idx.count - middle)) with
    | none => rfl
    | some chunk => rfl

end Accesses

section Selection

variable {idx : RaucHashIndex} {hash : List UInt8}

/-- The forward scan through the chunks with the hash. -/
lemma firstValid_run {l g : List Nat} (hasc : l.Pairwise (· < ·))
    (hsame : ∀ i ∈ l, hashAt idx.hashes i = hash)
    (hother : ∀ i ∈ g, hashAt idx.hashes i ≠ hash) :
    firstValid idx hash (l ++ g) = (l.find? (idx.invalidBelow ≤ ·)).filter (· <
      idx.invalidFrom) := by
  induction l with
  | nil =>
    cases g with
    | nil => rfl
    | cons curr g =>
      rw [List.nil_append, firstValid, if_pos (hother curr List.mem_cons_self)]
      rfl
  | cons curr l ih =>
    have hrest :=
      ih (List.pairwise_cons.mp hasc).2 (fun i hi => hsame i (List.mem_cons_of_mem _ hi))
    rw [List.cons_append, firstValid, if_neg (not_not.mpr (hsame curr List.mem_cons_self))]
    by_cases hbelow : curr < idx.invalidBelow
    · rw [List.find?_cons_of_neg (by simpa using hbelow)]
      by_cases hfrom : idx.invalidFrom ≤ curr
      · rw [if_pos hfrom]
        -- What follows is behind the region as well.
        symm
        rw [Option.filter_eq_none_iff]
        intro i hi
        have hlater := (List.pairwise_cons.mp hasc).1 i (List.mem_of_find?_eq_some hi)
        simp only [decide_eq_true_eq]
        omega
      · rw [if_neg hfrom, if_pos hbelow, hrest]
    · rw [List.find?_cons_of_pos (by simpa using hbelow), Option.filter_some]
      by_cases hfrom : idx.invalidFrom ≤ curr
      · rw [if_pos hfrom, if_neg (by simpa using hfrom)]
      · rw [if_neg hfrom, if_neg hbelow, if_pos (by simpa using hfrom)]

/-- Of a run of which only a part is looked at, the entry is selected that stands at the rank of the
lower bound, unless the scan starts behind it. -/
lemma find?_part {l : List Nat} (hasc : l.Pairwise (· < ·)) (u s x y : Nat) :
    (((l.take u).drop s).find? (x ≤ ·)).filter (· < y) =
      if max s (rank l x) < min u (rank l y) then l[max s (rank l x)]? else none := by
  have htake : (l.take u).Pairwise (· < ·) := hasc.sublist (List.take_sublist u l)
  have hpart : ((l.take u).drop s).Pairwise (· < ·) := htake.sublist (List.drop_sublist s _)
  rw [find?_eq_getElem?_rank hpart, rank_drop htake, rank_take hasc, List.getElem?_drop,
    getElem?_filter_rank htake,
    rank_take hasc]
  by_cases hin : max s (rank l x) < min u (rank l y)
  · have hpos : s + (min u (rank l x) - s) = max s (rank l x) := by omega
    rw [if_pos (by omega), if_pos hin, hpos, List.getElem?_take_of_lt (by omega)]
  · rw [if_neg (by omega), if_neg hin]

/-- Where the forward scan starts in the run of the hash: at its beginning, or where the bisection
landed if there is nothing in front of the run. -/
def StartsAt (idx : RaucHashIndex) (hash : List UInt8) (s : Nat) : Prop :=
  if smallerChunks idx hash = 0 then
    ∀ least, least ≤ s ↔ LandsFrom idx.count (min (sameChunks idx hash).length idx.count) least
  else s = 0

/-- The part of the table that is looked at from the start of the scan. -/
lemma Searchable.scanned (h : Searchable idx) (hash : List UInt8)
    (hle : smallerChunks idx hash ≤ idx.count) {s : Nat}
    (hs : s ≤ min (sameChunks idx hash).length (idx.count - smallerChunks idx hash)) :
    ∃ above, (idx.lookup.take idx.count).drop (smallerChunks idx hash + s) =
      ((sameChunks idx hash).take (idx.count - smallerChunks idx hash)).drop s ++ above ∧
      ∀ i ∈ above, hashAt idx.hashes i ≠ hash := by
  obtain ⟨below, above, hparts, -, habove, hlength⟩ := h.parts hash
  refine ⟨above.take (idx.count - smallerChunks idx hash - (sameChunks idx hash).length), ?_, ?_⟩
  · have hdrop : (idx.lookup.take idx.count).drop (below.length + s) =
        (((sameChunks idx hash) ++ above).take (idx.count - below.length)).drop s := by
      rw [hparts, List.take_append, List.take_of_length_le (by omega), ← List.drop_drop,
        List.drop_left]
    rw [← hlength, hdrop, List.take_append, List.drop_append_of_le_length]
    rw [List.length_take]
    omega
  · intro i hi heq
    have hgt := habove i (List.mem_of_mem_take hi)
    rw [heq, Std.compare_self] at hgt
    exact absurd hgt (by decide)

/-- What the search selects. -/
lemma Searchable.searchChunk_ok_iff (h : Searchable idx) (hcount : 0 < idx.count)
    (hash : List UInt8)
    (hfound : smallerChunks idx hash < idx.count) (hsome : sameChunks idx hash ≠ []) :
    ∃ s, StartsAt idx hash s ∧ ∀ c, searchChunk idx hash = .ok c ↔
      max s (rank (sameChunks idx hash) idx.invalidBelow) <
        min (idx.count - smallerChunks idx hash) (rank (sameChunks idx hash) idx.invalidFrom) ∧
      (sameChunks idx hash)[max s (rank (sameChunks idx hash) idx.invalidBelow)]? = some c := by
  have hlength : idx.count ≤ idx.lookup.length := h.length ▸ h.count
  have hpos : 0 < (sameChunks idx hash).length := List.length_pos_iff.mpr hsome
  have hentry := fun {i : Nat} (hi : i < idx.lookup.length) => h.compare_entry hash hi
  have hasc : Ascending (fun i => compare (hashAt idx.hashes (idx.lookup.getD i 0)) hash)
      idx.lookup.length := by
    have hsorted := ascending_buildLookup h.small hash
    rwa [← h.lookup, ← h.length] at hsorted
  obtain ⟨m, hm⟩ := bisect_complete (k := smallerChunks idx hash) hasc idx.count 0
    (idx.count - 1) (by omega)
    (by omega) (Nat.zero_le _) (by omega) (by
      rw [hentry (by omega), if_neg (by omega), if_pos (by omega)])
  obtain ⟨heq, -, hle⟩ := bisect_sound hm
  have hrun : smallerChunks idx hash ≤ m ∧
      m < smallerChunks idx hash + (sameChunks idx hash).length := by
    rw [hentry (by omega)] at heq
    split_ifs at heq
    omega
  have hwalk : runStart (fun i => hashAt idx.hashes (idx.lookup.getD i 0) == hash) m m =
      if smallerChunks idx hash = 0 then m else smallerChunks idx hash := by
    apply runStart_run (b := m + 1) _ (by omega) hrun.1 (le_refl m)
    intro i hi
    rw [beq_iff_eq, ← @Std.LawfulEqCmp.compare_eq_iff_eq _ compare, hentry (by omega)]
    split_ifs with hlow hmid
    · simp
      omega
    · simp
      omega
    · omega
  refine ⟨if smallerChunks idx hash = 0 then m else 0, ?_, ?_⟩
  · unfold StartsAt
    by_cases hzero : smallerChunks idx hash = 0
    · rw [if_pos hzero, if_pos hzero]
      intro least
      apply bisect_lands (k := 0) (by omega) _ (by omega) (by omega) hm
      intro i hi
      rw [hentry (by omega), if_neg (by omega), hzero, Nat.zero_add]
      exact if_congr (by omega) rfl rfl
    · rw [if_neg hzero, if_neg hzero]
  · have hstart : (if smallerChunks idx hash = 0 then m else smallerChunks idx hash) =
        smallerChunks idx hash + (if smallerChunks idx hash = 0 then m else 0) := by
      split_ifs <;> omega
    have hs : (if smallerChunks idx hash = 0 then m else 0) ≤
        min (sameChunks idx hash).length (idx.count - smallerChunks idx hash) := by
      split_ifs <;> omega
    generalize (if smallerChunks idx hash = 0 then m else 0) = s at *
    obtain ⟨above, hscanned, habove⟩ := h.scanned hash (by omega) hs
    have hrunasc := ascending_sameChunks idx hash
    have hpart : ∀ i ∈ ((sameChunks idx hash).take (idx.count - smallerChunks idx hash)).drop s,
        hashAt idx.hashes i = hash := by
      intro i hi
      exact (mem_sameChunks.mp (List.mem_of_mem_take (List.mem_of_mem_drop hi))).2
    have hvalid :=
      firstValid_run ((hrunasc.sublist (List.take_sublist _ _)).sublist (List.drop_sublist s _))
      hpart habove
    rw [find?_part hrunasc, ← hscanned, ← hstart] at hvalid
    intro c
    unfold searchChunk
    dsimp only
    rw [hm]
    dsimp only
    rw [hwalk, hvalid]
    split_ifs with hin
    · cases hat : (sameChunks idx hash)[max s (rank (sameChunks idx hash) idx.invalidBelow)]? with
      | none => simp
      | some chunk => simp [hin]
    · simp [hin]

lemma Searchable.searchChunk_none (h : Searchable idx) (hcount : 0 < idx.count) (hash : List UInt8)
    (hnone : idx.count ≤ smallerChunks idx hash ∨ sameChunks idx hash = []) (c : Nat) :
      searchChunk idx hash ≠ .ok c := by
  have hlength : idx.count ≤ idx.lookup.length := h.length ▸ h.count
  unfold searchChunk
  dsimp only
  cases hm : bisect (fun i => compare (hashAt idx.hashes (idx.lookup.getD i 0)) hash) idx.count 0
    (idx.count - 1) with
  | none => simp
  | some m =>
    obtain ⟨heq, -, hle⟩ := bisect_sound hm
    rw [h.compare_entry hash (by omega)] at heq
    split_ifs at heq with hlow hrun
    rcases hnone with hnone | hnone
    · omega
    · rw [hnone, List.length_nil] at hrun
      omega

end Selection

section Correctness

variable {idx : RaucHashIndex} {hash : List UInt8}

/-- The search ends, with all accesses in the tables, and selects the lowest chunk of the valid
region that has the hash if and only if there is one. -/
def SelectsLowest (idx : RaucHashIndex) (hash : List UInt8) : Prop :=
  ∃ r, searchChunkIn idx hash = some r ∧ ∀ c, r = .ok c ↔ IsLeast
    {i | i < idx.count ∧ idx.invalidBelow ≤ i ∧ i < idx.invalidFrom ∧
      hashAt idx.hashes i = hash} c

/-- If there is such a chunk, then its entry is among those that are searched, and in a run at the
bottom of the table the bisection does not land behind it. If there is none, then the same holds for
the entries that only the hash and the region admit: none of them is searched, or the bisection
lands behind all of them. -/
def ScanMeets (idx : RaucHashIndex) (hash : List UInt8) : Prop :=
  let run := sameChunks idx hash
  let smaller := smallerChunks idx hash
  let lands := LandsFrom idx.count (min run.length idx.count)
  if rank run idx.invalidBelow < rank run (min idx.invalidFrom idx.count) then
    smaller + rank run idx.invalidBelow < idx.count ∧
      (smaller = 0 → ¬lands (rank run idx.invalidBelow + 1))
  else
    min (idx.count - smaller) (rank run idx.invalidFrom) ≤ rank run idx.invalidBelow ∨
      (smaller = 0 ∧ lands (min (idx.count - smaller) (rank run idx.invalidFrom)))

lemma Searchable.isLeast_iff (h : Searchable idx) (hash : List UInt8) (c : Nat) :
    IsLeast {i | i < idx.count ∧ idx.invalidBelow ≤ i ∧ i < idx.invalidFrom ∧
        hashAt idx.hashes i = hash} c ↔
      rank (sameChunks idx hash) idx.invalidBelow <
        rank (sameChunks idx hash) (min idx.invalidFrom idx.count) ∧
      (sameChunks idx hash)[rank (sameChunks idx hash) idx.invalidBelow]? = some c := by
  rw [← isLeast_iff_rank (ascending_sameChunks idx hash)]
  have hset : {i | i < idx.count ∧ idx.invalidBelow ≤ i ∧ i < idx.invalidFrom ∧
        hashAt idx.hashes i = hash} =
      {i | i ∈ sameChunks idx hash ∧ idx.invalidBelow ≤ i ∧ i < min idx.invalidFrom idx.count} := by
    ext i
    rw [Set.mem_ofPred_eq, Set.mem_ofPred_eq, mem_sameChunks]
    have hcount := h.count
    constructor
    · rintro ⟨hi, hbelow, hfrom, hhash⟩
      exact ⟨⟨by omega, hhash⟩, hbelow, by omega⟩
    · rintro ⟨⟨-, hhash⟩, hbelow, hfrom⟩
      exact ⟨by omega, hbelow, by omega, hhash⟩
  rw [hset]

/-- Two selections from an ascending list agree if both or none of them exist and they are at one
place. -/
lemma selections_agree {l : List Nat} (hasc : l.Pairwise (· < ·)) {A B : Prop} {j k : Nat}
    (hj : A → j < l.length)
    (hk : B → k < l.length) :
    (∀ c, (A ∧ l[j]? = some c) ↔ (B ∧ l[k]? = some c)) ↔ (A ↔ B) ∧ (A → j = k) := by
  constructor
  · intro h
    refine ⟨⟨fun ha => ?_, fun hb => ?_⟩, fun ha => ?_⟩
    · exact ((h _).mp ⟨ha, List.getElem?_eq_getElem (hj ha)⟩).1
    · exact ((h _).mpr ⟨hb, List.getElem?_eq_getElem (hk hb)⟩).1
    · have hlength := hj ha
      have hboth := ((h _).mp ⟨ha, List.getElem?_eq_getElem hlength⟩).2
      rw [← List.getElem?_eq_getElem hlength] at hboth
      exact (List.getElem?_inj hlength (hasc.imp (fun hab => Nat.ne_of_lt hab))).mp hboth.symm
  · rintro ⟨hiff, hsame⟩ c
    constructor
    · rintro ⟨ha, hat⟩
      exact ⟨hiff.mp ha, hsame ha ▸ hat⟩
    · rintro ⟨hb, hat⟩
      have ha := hiff.mpr hb
      exact ⟨ha, (hsame ha).symm ▸ hat⟩

lemma Searchable.selectsLowest_iff (h : Searchable idx) (hash : List UInt8) :
    SelectsLowest idx hash ↔ ScanMeets idx hash := by
  have hleast := h.isLeast_iff hash
  have hlen := fun x => rank_le_length (sameChunks idx hash) x
  have hmono := rank_mono (sameChunks idx hash) (Nat.min_le_left idx.invalidFrom idx.count)
  have hasc := ascending_sameChunks idx hash
  unfold SelectsLowest ScanMeets
  dsimp only
  by_cases hcount : idx.count = 0
  · have hzero : rank (sameChunks idx hash) (min idx.invalidFrom idx.count) = 0 :=
      rank_eq_zero (fun a _ => by omega)
    rw [if_neg (by omega), searchChunkIn, if_pos hcount]
    refine ⟨fun _ => .inl (by omega), fun _ => ⟨_, rfl, fun c => ?_⟩⟩
    rw [hleast]
    simp [hzero]
  · rw [h.searchChunkIn_eq hcount]
    have hopen : (∃ r, some (searchChunk idx hash) = some r ∧ ∀ c, r = .ok c ↔
        IsLeast {i | i < idx.count ∧
        idx.invalidBelow ≤ i ∧ i < idx.invalidFrom ∧ hashAt idx.hashes i = hash} c) ↔
        ∀ c, searchChunk idx hash = .ok c ↔ rank (sameChunks idx hash) idx.invalidBelow <
          rank (sameChunks idx hash) (min idx.invalidFrom idx.count) ∧
          (sameChunks idx hash)[rank (sameChunks idx hash) idx.invalidBelow]? = some c := by
      simp only [hleast, Option.some.injEq, exists_eq_left']
    rw [hopen]
    generalize hr : rank (sameChunks idx hash) idx.invalidBelow = r at *
    generalize hq : rank (sameChunks idx hash) idx.invalidFrom = q at *
    generalize hq' : rank (sameChunks idx hash) (min idx.invalidFrom idx.count) = q' at *
    have hrlen := hr ▸ hlen idx.invalidBelow
    have hqlen := hq ▸ hlen idx.invalidFrom
    by_cases hfound : smallerChunks idx hash < idx.count ∧ sameChunks idx hash ≠ []
    · obtain ⟨s, hstart, hok⟩ := h.searchChunk_ok_iff (Nat.pos_of_ne_zero hcount) hash
        hfound.1 hfound.2
      simp only [hok, hr, hq]
      rw [selections_agree hasc (by omega) (by omega)]
      unfold StartsAt at hstart
      by_cases hzero : smallerChunks idx hash = 0
      · rw [if_pos hzero] at hstart
        rw [← hstart, ← hstart]
        split_ifs with hwindow
        · omega
        · omega
      · rw [if_neg hzero] at hstart
        split_ifs with hwindow
        · omega
        · omega
    · have hnone : idx.count ≤ smallerChunks idx hash ∨ sameChunks idx hash = [] := by
        by_contra hboth
        rw [not_or] at hboth
        exact hfound ⟨by omega, hboth.2⟩
      have hempty : idx.count ≤ smallerChunks idx hash ∨ (sameChunks idx hash).length = 0 :=
        hnone.imp_right (fun hnil => by rw [hnil, List.length_nil])
      have hno := h.searchChunk_none (Nat.pos_of_ne_zero hcount) hash hnone
      simp only [hno, false_iff]
      split_ifs with hwindow
      · have hin : r < (sameChunks idx hash).length := by omega
        constructor
        · intro hall
          exact absurd ⟨hwindow, List.getElem?_eq_getElem hin⟩ (hall _)
        · omega
      · exact ⟨fun _ => .inl (by omega), fun _ c hboth => hwindow hboth.1⟩

section Building

variable (sha256 : List UInt8 → List UInt8)

/-- The indices that are built: by opening a file or a device with any index file, by reusing an
index for a device, or by preparing a table that is long enough and small enough, which is what the
two do; and then with any valid region. -/
inductive Built : RaucHashIndex → Prop where
  | opened {dev : BlockDevice} {progress : Bool} {fd : DataFd} {indexFile : Option (List UInt8)}
      {w : World DiskState}
      {idx : RaucHashIndex} (h : (rHashIndexOpen sha256 dev progress fd indexFile w).1 =
        .value idx) : Built idx
  | reused {dev : BlockDevice} {idx idx' : RaucHashIndex} (hidx : Built idx) {w : World DiskState}
      (h : (rHashIndexReuse dev idx w).1 = .value idx') : Built idx'
  | prepared (fd : DataFd) {count : Nat} {hashes : List UInt8} (hsmall : hashes.length < 2 ^ 32)
      (hcount : count ≤ hashes.length / sha256Len) : Built (hashIndexPrepare fd count hashes)
  | restricted {idx : RaucHashIndex} (hidx : Built idx) (invalidBelow invalidFrom : Nat)
      (skip : Bool) :
      Built { idx with invalidBelow := invalidBelow, invalidFrom := invalidFrom,
                       skipHashCheck := skip }

variable {sha256}

lemma Searchable.reused (h : Searchable idx) {dev : BlockDevice} {idx' : RaucHashIndex}
    {w : World DiskState}
    (hrun : (rHashIndexReuse dev idx w).1 = .value idx') : Searchable idx' := by
  have hlooks : Looks w.state.device.cache (rHashIndexReuse dev idx) Searchable := by
    unfold rHashIndexReuse
    apply looks_bind (getChunkCount_looks _)
    rintro size -
    apply looks_pure
    have hcount := h.count
    have hsmall := h.small
    constructor
    · rfl
    · change (idx.hashes.take _).length < _
      rw [List.length_take]
      omega
    · change (if idx.count < size then idx.count else size) ≤ (idx.hashes.take _).length / _
      rw [List.length_take]
      unfold sha256Len at *
      split_ifs <;> omega
  exact (hlooks.value rfl hrun).2

/-- Every index that is built can be searched. -/
lemma Built.searchable (hlength : ∀ chunk, chunk.length = chunkSize →
    (sha256 chunk).length = sha256Len)
    (h : Built sha256 idx) : Searchable idx := by
  induction h with
  | opened h =>
    have hopened := (rHashIndexOpen_looks _ _).value rfl h
    obtain ⟨hsmall, hcount⟩ := hopened.2.length hlength
    exact ⟨hopened.2.lookup, hsmall, hcount⟩
  | reused hidx h ih => exact ih.reused h
  | prepared fd hsmall hcount => exact ⟨rfl, hsmall, hcount⟩
  | restricted hidx invalidBelow invalidFrom skip ih => exact ⟨ih.lookup, ih.small, ih.count⟩

/-- For every index that is built and every hash, the search is right exactly if its scan meets the
chunk. -/
theorem rHashIndexGetChunk_selectsLowest_iff
    (hlength : ∀ chunk, chunk.length = chunkSize → (sha256 chunk).length = sha256Len)
    {idx : RaucHashIndex}
    (h : Built sha256 idx) (hash : List UInt8) : SelectsLowest idx hash ↔ ScanMeets idx hash :=
  (h.searchable hlength).selectsLowest_iff hash

/-- An image of three chunks of zeros, with its index file. -/
def zeroImageIndex : RaucHashIndex :=
  hashIndexPrepare (.file ⟨12288, fun _ => 0⟩) 3 (rHashIndexZeroChunk ++ rHashIndexZeroChunk ++
    rHashIndexZeroChunk)

lemma zeroImageIndex_built : Built (fun _ => rHashIndexZeroChunk) zeroImageIndex :=
  @Built.opened _ ⟨0, 512⟩ false (.file ⟨12288, fun _ => 0⟩)
    (some (rHashIndexZeroChunk ++ rHashIndexZeroChunk ++ rHashIndexZeroChunk))
    (calm ⟨⟨fun _ => 0, fun _ => 0⟩, fun _ _ _ => false⟩) _ rfl

/-- With the hash of zeros the second one of three equal chunks is selected. -/
theorem zeroImage_second_selected : Built (fun _ => rHashIndexZeroChunk) zeroImageIndex ∧
    searchChunkIn zeroImageIndex rHashIndexZeroChunk = some (.ok 1) ∧
    ¬SelectsLowest zeroImageIndex rHashIndexZeroChunk := by
  have hsearch : searchChunkIn zeroImageIndex rHashIndexZeroChunk = some (.ok 1) := by
    decide +kernel
  refine ⟨zeroImageIndex_built, hsearch, ?_⟩
  rintro ⟨r, hr, hleast⟩
  rw [hsearch] at hr
  obtain rfl : .ok 1 = r := by simpa using hr
  have hone := ((hleast 1).mp rfl).2
  have hzero : 1 ≤ 0 := hone ⟨by decide, by decide, by decide, by decide⟩
  omega

/-- Behind a chunk with a smaller hash the first one of the run is selected. -/
theorem twoHashes_selected :
    SelectsLowest (hashIndexPrepare .target 3 (List.replicate 32 1 ++ rHashIndexZeroChunk ++
      rHashIndexZeroChunk))
      rHashIndexZeroChunk := by
  have hbuilt : Built (fun _ => rHashIndexZeroChunk)
      (hashIndexPrepare .target 3 (List.replicate 32 1 ++ rHashIndexZeroChunk ++
        rHashIndexZeroChunk)) :=
    .prepared .target (by decide) (by decide)
  apply (rHashIndexGetChunk_selectsLowest_iff (fun _ _ => rfl) hbuilt rHashIndexZeroChunk).mpr
  have hsame :
      sameChunks (hashIndexPrepare .target 3 (List.replicate 32 1 ++ rHashIndexZeroChunk ++
      rHashIndexZeroChunk))
      rHashIndexZeroChunk = [1, 2] := by decide +kernel
  have hsmaller : smallerChunks (hashIndexPrepare .target 3
      (List.replicate 32 1 ++ rHashIndexZeroChunk ++ rHashIndexZeroChunk)) rHashIndexZeroChunk =
        1 := by decide +kernel
  unfold ScanMeets
  dsimp only
  rw [hsame, hsmaller, if_pos (by decide)]
  exact ⟨by decide, by omega⟩

end Building

end Correctness

end RaucUpdate
