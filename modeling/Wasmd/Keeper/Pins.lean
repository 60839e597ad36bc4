import Wasmd.Keeper.Outcome

/-!
# The pinned codes of the VM

The store marks codes as pinned by their ids, the VM keeps modules in memory by their checksums, and
what the VM keeps is not rolled back with a failed transaction.  Each call of `pinCode` and
`unpinCode` gives the VM the whole list.

* `WasmStore.PinsStored` — every mark is that of a stored code.
* `WasmStore.PinnedChecksum` — the checksums of the codes that are marked.
* `mem_collectPinnedChecksums` — what the loop over the marks collects.
* `pinned_codes_synced` — whatever the VM kept before, after `pinCode` or `unpinCode` it keeps what
  a new VM is given at the start of the node.
-/

namespace Wasmd

open ByteStore Effects Gas

variable {ε C : Type} {k : Keeper ε C} {s : WasmStore} {w w' : World (Multistore ε) Shared}

/-! ## The marks -/

/-- Every mark in the store is that of a code in the store. -/
def WasmStore.PinsStored (s : WasmStore) : Prop :=
  ∀ key : Bytes, s.pinned[key]? = some () →
    ∃ id, key = pinnedCodeIndexPrefix id ∧ (s.getCodeInfo id).isSome

/-- The checksum of a code that is marked as pinned. -/
def WasmStore.PinnedChecksum (s : WasmStore) (checksum : Bytes) : Prop :=
  ∃ id info, s.isPinnedCode id = true ∧ s.getCodeInfo id = some info ∧ info.codeHash = checksum

theorem isPinnedCode_iff {id : UInt64} :
    s.isPinnedCode id = true ↔ s.pinned[pinnedCodeIndexPrefix id]? = some () := by
  rw [WasmStore.isPinnedCode, Option.isSome_iff_exists]
  exact ⟨fun ⟨_, h⟩ => h, fun h => ⟨_, h⟩⟩

theorem WasmStore.PinsStored.mem_pinnedCodes (h : s.PinsStored) {id : UInt64} :
    id ∈ s.pinnedCodes ↔ s.isPinnedCode id = true := by
  rw [isPinnedCode_iff, WasmStore.pinnedCodes, List.mem_map]
  constructor
  · rintro ⟨⟨key, ⟨⟩⟩, hmem, rfl⟩
    have hkey := KVStore.mem_entries.mp hmem
    obtain ⟨id, hid, -⟩ := h _ hkey
    obtain rfl : key = uint64ToBigEndian id := (List.cons.inj hid).2
    rw [bigEndianToUint64_uint64ToBigEndian]
    exact hkey
  · intro hkey
    exact ⟨(uint64ToBigEndian id, ()), KVStore.mem_entries.mpr hkey,
      bigEndianToUint64_uint64ToBigEndian id⟩

/-- The loop finds the codes of all marks. -/
theorem WasmStore.PinsStored.collect (h : s.PinsStored) (excludeCodeID : Option UInt64) :
    ∃ checksums, s.collectPinnedChecksums excludeCodeID = .ok checksums := by
  have hfound : ∀ id ∈ s.pinnedCodes.filter fun id => some id ≠ excludeCodeID,
      ∃ info, s.getCodeInfo id = some info := by
    intro id hmem
    have hpinned := h.mem_pinnedCodes.mp (List.mem_of_mem_filter hmem)
    obtain ⟨id', hkey, hsome⟩ := h _ (isPinnedCode_iff.mp hpinned)
    rw [pinnedKey_injective hkey]
    exact Option.isSome_iff_exists.mp hsome
  refine mapM_runs fun id hmem => ?_
  obtain ⟨info, hinfo⟩ := hfound id hmem
  exact ⟨info.codeHash, by rw [hinfo]⟩

/-- **What the loop over the marks collects.** -/
theorem mem_collectPinnedChecksums (h : s.PinsStored) {excludeCodeID : Option UInt64}
    {checksums : List Bytes} (hcollect : s.collectPinnedChecksums excludeCodeID = .ok checksums)
    {checksum : Bytes} :
    checksum ∈ checksums ↔ ∃ id info, s.isPinnedCode id = true ∧ some id ≠ excludeCodeID ∧
      s.getCodeInfo id = some info ∧ info.codeHash = checksum := by
  rw [mem_of_mapM_ok hcollect]
  refine exists_congr fun id => ?_
  rw [List.mem_filter, h.mem_pinnedCodes, decide_eq_true_iff]
  cases s.getCodeInfo id <;> simp [and_assoc]

/-! ## Marking and unmarking -/

/-- The store with one more mark. -/
def WasmStore.mark (s : WasmStore) (codeID : UInt64) : WasmStore :=
  { s with pinned := s.pinned.insert (pinnedCodeIndexPrefix codeID) () }

/-- The store with a mark taken away. -/
def WasmStore.unmark (s : WasmStore) (codeID : UInt64) : WasmStore :=
  { s with pinned := s.pinned.erase (pinnedCodeIndexPrefix codeID) }

theorem isPinnedCode_mark {codeID id : UInt64} :
    (s.mark codeID).isPinnedCode id = true ↔ id = codeID ∨ s.isPinnedCode id = true := by
  rw [isPinnedCode_iff, isPinnedCode_iff]
  by_cases hid : id = codeID
  · subst hid
    exact iff_of_true (KVStore.getElem?_insert_self _ _ _) (.inl rfl)
  · rw [or_iff_right hid]
    exact Iff.of_eq (congrArg (· = some ()) (KVStore.getElem?_insert_of_ne _ _
      fun hkey => hid (pinnedKey_injective hkey)))

theorem isPinnedCode_unmark {codeID id : UInt64} :
    (s.unmark codeID).isPinnedCode id = true ↔ id ≠ codeID ∧ s.isPinnedCode id = true := by
  rw [isPinnedCode_iff, isPinnedCode_iff]
  by_cases hid : id = codeID
  · subst hid
    refine iff_of_false (fun h => ?_) fun h => h.1 rfl
    exact Option.some_ne_none _ (h.symm.trans (KVStore.getElem?_erase_self _ _))
  · rw [and_iff_right hid]
    exact Iff.of_eq (congrArg (· = some ()) (KVStore.getElem?_erase_of_ne _
      fun hkey => hid (pinnedKey_injective hkey)))

theorem WasmStore.PinsStored.mark (h : s.PinsStored) {codeID : UInt64}
    (hcode : (s.getCodeInfo codeID).isSome) : (s.mark codeID).PinsStored := by
  intro key hkey
  by_cases heq : key = pinnedCodeIndexPrefix codeID
  · exact ⟨codeID, heq, hcode⟩
  · exact h key ((KVStore.getElem?_insert_of_ne _ _ heq).symm.trans hkey)

theorem WasmStore.PinsStored.unmark (h : s.PinsStored) (codeID : UInt64) :
    (s.unmark codeID).PinsStored := by
  intro key hkey
  by_cases heq : key = pinnedCodeIndexPrefix codeID
  · rw [heq] at hkey
    exact absurd (hkey.symm.trans (KVStore.getElem?_erase_self _ _)) (Option.some_ne_none _)
  · exact h key ((KVStore.getElem?_erase_of_ne _ heq).symm.trans hkey)

/-! ## What the VM is given -/

/-- **A new VM is given the checksums of the marked codes**, or refuses them. -/
theorem initializePinnedCodes_cases (hpins : w.ms.wasm.PinsStored)
    (hnew : w.shared.vm.pinned = []) :
    (∃ w', k.initializePinnedCodes w = (.ok (), w') ∧ w'.ms = w.ms ∧
      w'.shared.vm.codes = w.shared.vm.codes ∧
      ∀ checksum, checksum ∈ w'.shared.vm.pinned ↔ w.ms.wasm.PinnedChecksum checksum) ∨
    ∃ checksums err, (∀ checksum, checksum ∈ checksums ↔ w.ms.wasm.PinnedChecksum checksum) ∧
      k.wasmVM.pin w.shared.vm checksums = .error err ∧
      k.initializePinnedCodes w = (.error (.error (errPinContractFailed.wrap err)), w) := by
  obtain ⟨checksums, hcollect⟩ := hpins.collect none
  have hmem : ∀ checksum, checksum ∈ checksums ↔ w.ms.wasm.PinnedChecksum checksum := by
    intro checksum
    rw [mem_collectPinnedChecksums hpins hcollect]
    simp [WasmStore.PinnedChecksum]
  unfold Keeper.initializePinnedCodes
  rw [GoM.bind_run_ok (readStore_ok_iff.mpr ⟨rfl, rfl⟩),
    GoM.bind_run_ok (orError_ok_iff.mpr ⟨hcollect, rfl⟩)]
  by_cases hnone : checksums.length = 0
  · rw [if_pos hnone]
    refine .inl ⟨w, rfl, rfl, rfl, fun checksum => ?_⟩
    rw [hnew, ← hmem, List.length_eq_zero_iff.mp hnone]
  · rw [if_neg hnone]
    cases hpin : k.wasmVM.pin w.shared.vm checksums with
    | error err =>
        refine .inr ⟨checksums, err, hmem, hpin, ?_⟩
        rw [Keeper.syncCodes, hpin]
    | ok u =>
        refine .inl ⟨{ w with shared := { w.shared with
          vm := { w.shared.vm with pinned := checksums } } }, ?_, rfl, rfl, hmem⟩
        rw [Keeper.syncCodes, hpin]

/-- What the VM keeps after `pinCode`, whatever it kept before. -/
theorem pinCode_synced {codeID : UInt64} (hpins : w.ms.wasm.PinsStored)
    (h : k.pinCode codeID w = (.ok (), w')) :
    w'.ms.wasm = w.ms.wasm.mark codeID ∧ w'.ms.wasm.PinsStored ∧
      ∀ checksum, checksum ∈ w'.shared.vm.pinned ↔ w'.ms.wasm.PinnedChecksum checksum := by
  obtain ⟨info, checksums, hinfo, hstore, -, hcollect, hpinned⟩ := pinCode_ok h
  have hmark : w'.ms.wasm = w.ms.wasm.mark codeID := hstore
  refine ⟨hmark, hmark ▸ hpins.mark (Option.isSome_of_eq_some hinfo), fun checksum => ?_⟩
  rw [hpinned, List.mem_append, List.mem_singleton, mem_collectPinnedChecksums hpins hcollect,
    hmark]
  constructor
  · rintro (⟨id, info', hid, -, hinfo', hsum⟩ | rfl)
    · exact ⟨id, info', isPinnedCode_mark.mpr (.inr hid), hinfo', hsum⟩
    · exact ⟨codeID, info, isPinnedCode_mark.mpr (.inl rfl), hinfo, rfl⟩
  · rintro ⟨id, info', hid, hinfo', rfl⟩
    rcases isPinnedCode_mark.mp hid with rfl | hid
    · exact .inr (congrArg CodeInfo.codeHash (Option.some.inj (hinfo'.symm.trans hinfo)))
    · exact .inl ⟨id, info', hid, nofun, hinfo', rfl⟩

/-- What the VM keeps after `unpinCode`.  The code is left out by its id, so that its checksum stays
with the VM when another marked code has it. -/
theorem unpinCode_synced {codeID : UInt64} (hpins : w.ms.wasm.PinsStored)
    (h : k.unpinCode codeID w = (.ok (), w')) :
    w'.ms.wasm = w.ms.wasm.unmark codeID ∧ w'.ms.wasm.PinsStored ∧
      ∀ checksum, checksum ∈ w'.shared.vm.pinned ↔ w'.ms.wasm.PinnedChecksum checksum := by
  obtain ⟨checksums, hstore, -, hcollect, hpinned⟩ := unpinCode_ok h
  have hmark : w'.ms.wasm = w.ms.wasm.unmark codeID := hstore
  refine ⟨hmark, hmark ▸ hpins.unmark codeID, fun checksum => ?_⟩
  rw [hpinned, mem_collectPinnedChecksums hpins hcollect, hmark]
  refine exists_congr fun id => exists_congr fun info => ?_
  rw [isPinnedCode_unmark, ← and_assoc, and_comm (a := id ≠ codeID)]
  simp [WasmStore.unmark, WasmStore.getCodeInfo]

/-- **The VM keeps the pinned codes of the store.**  Every mark in the store is that of a stored
code.  Whatever the VM kept before, after a successful `pinCode` or `unpinCode` it keeps the
checksums of the codes that are marked, as does a new VM that `InitializePinnedCodes` was called
for, unless that VM refuses the list.  The checksums of the other codes stay. -/
theorem pinned_codes_synced (k : Keeper ε C) (codeID : UInt64) (w w' : World (Multistore ε) Shared)
    (hpins : w.ms.wasm.PinsStored)
    (h : k.pinCode codeID w = (.ok (), w') ∨ k.unpinCode codeID w = (.ok (), w')) :
    (∀ checksum, checksum ∈ w'.shared.vm.pinned ↔ w'.ms.wasm.PinnedChecksum checksum) ∧
    (∀ w₀ : World (Multistore ε) Shared, w₀.ms.wasm = w'.ms.wasm → w₀.shared.vm.pinned = [] →
      (∃ w₁, k.initializePinnedCodes w₀ = (.ok (), w₁) ∧
        ∀ checksum, checksum ∈ w₁.shared.vm.pinned ↔ checksum ∈ w'.shared.vm.pinned) ∨
      ∃ checksums err, (∀ checksum, checksum ∈ checksums ↔ checksum ∈ w'.shared.vm.pinned) ∧
        k.wasmVM.pin w₀.shared.vm checksums = .error err ∧
        k.initializePinnedCodes w₀ = (.error (.error (errPinContractFailed.wrap err)), w₀)) ∧
    ∀ id info, id ≠ codeID → w.ms.wasm.isPinnedCode id = true →
      w.ms.wasm.getCodeInfo id = some info → info.codeHash ∈ w'.shared.vm.pinned := by
  have hsynced : (w'.ms.wasm = w.ms.wasm.mark codeID ∨ w'.ms.wasm = w.ms.wasm.unmark codeID) ∧
      w'.ms.wasm.PinsStored ∧
      ∀ checksum, checksum ∈ w'.shared.vm.pinned ↔ w'.ms.wasm.PinnedChecksum checksum := by
    rcases h with h | h
    · exact (pinCode_synced hpins h).imp_left .inl
    · exact (unpinCode_synced hpins h).imp_left .inr
  obtain ⟨hstore, hpins', hmem⟩ := hsynced
  refine ⟨hmem, fun w₀ hsame hnew => ?_, fun id info hne hid hinfo => (hmem _).mpr ?_⟩
  · rcases initializePinnedCodes_cases (k := k) (hsame ▸ hpins') hnew with
      ⟨w₁, hrun, -, -, hw₁⟩ | ⟨checksums, err, hlist, hpin, hrun⟩
    · refine .inl ⟨w₁, hrun, fun checksum => ?_⟩
      rw [hw₁, hmem, hsame]
    · refine .inr ⟨checksums, err, fun checksum => ?_, hpin, hrun⟩
      rw [hlist, hmem, hsame]
  · rcases hstore with hstore | hstore
    · rw [hstore]
      exact ⟨id, info, isPinnedCode_mark.mpr (.inr hid), hinfo, rfl⟩
    · rw [hstore]
      exact ⟨id, info, isPinnedCode_unmark.mpr ⟨hne, hid⟩, hinfo, rfl⟩

/-! ### Two codes with the same checksum -/

/-- A code with checksum `[7]`. -/
def sevenInfo : CodeInfo := ⟨[7], "creator", ⟨.everybody, []⟩⟩

/-- Codes 1 and 2 have the same checksum, and both are pinned. -/
def twinStore : WasmStore :=
  (((WasmStore.empty.storeCodeInfo 1 sevenInfo).storeCodeInfo 2 sevenInfo).mark 1).mark 2

theorem twinStore_pinsStored : twinStore.PinsStored := by
  have hnone :
      ((WasmStore.empty.storeCodeInfo 1 sevenInfo).storeCodeInfo 2 sevenInfo).PinsStored := by
    intro key hkey
    exact absurd hkey (by simp [WasmStore.storeCodeInfo, WasmStore.empty])
  refine (hnone.mark ?_).mark ?_
  · exact Option.isSome_of_eq_some ((WasmStore.getCodeInfo_storeCodeInfo_of_ne _ _
      (by decide)).trans (WasmStore.getCodeInfo_storeCodeInfo_self _ _ _))
  · exact Option.isSome_of_eq_some (WasmStore.getCodeInfo_storeCodeInfo_self _ _ _)

/-- The VM keeps a code of a rolled back transaction. -/
def staleWorld : World (Multistore Unit) Shared :=
  ⟨⟨twinStore, [], ()⟩, .infinite 0, [], ⟨none, ⟨∅, [[9]]⟩⟩⟩

/-- Code 1 is unpinned, and its checksum stays for code 2. -/
theorem pinned_codes_synced_twins :
    ((plainKeeper Unit).unpinCode 1 staleWorld).2.shared.vm.pinned = [[7]] ∧
      ∀ checksum, checksum ∈ ((plainKeeper Unit).unpinCode 1 staleWorld).2.shared.vm.pinned ↔
        ((plainKeeper Unit).unpinCode 1 staleWorld).2.ms.wasm.PinnedChecksum checksum :=
  ⟨by decide +kernel, (pinned_codes_synced (plainKeeper Unit) 1 staleWorld _ twinStore_pinsStored
    (.inr (GoM.ok_of_toOption (by decide +kernel)))).1⟩

end Wasmd
