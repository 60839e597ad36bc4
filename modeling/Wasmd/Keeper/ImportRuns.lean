import Wasmd.Keeper.Exportable

/-!
# Genesis states that are accepted

The import of one element succeeds where nothing is in its way; over a list without duplicates it
goes on to the end.

* `importCode_runs`, `pinCode_runs`, `importContract_runs` — one element, and what it leaves.
* `CodesRestored`, `ContractsRestored` — the store while the loops are at work: it holds those codes
  and contracts of another store that the loops are done with.
* `Describes` — a genesis state that tells of a store, in any order.
* `Describes.restores` — **such a genesis state is accepted**, and the store it leads to is the one
  it tells of.
-/

namespace Wasmd

open ByteStore KVStore Effects Gas

variable {ε C : Type} {k : Keeper ε C} {w w₀ : World (Multistore ε) Shared} {s : WasmStore}

/-! ## Codes -/

/-- The code is no archive, and the VM takes it and finds the checksum that its record names. -/
structure Code.Accepted (k : Keeper ε C) (c : Code) : Prop where
  plain : isGzip c.codeBytes = false
  compiles : k.wasmVM.compileUnchecked c.codeBytes = .ok ()
  hash : c.codeInfo.codeHash = k.wasmVM.checksum c.codeBytes

/-- The VM loads codes that it has. -/
def WasmVM.LoadsStored (vm : WasmVM C) : Prop :=
  ∀ (state : VMState) (checksums : List Bytes),
    (∀ checksum ∈ checksums, (state.codes[checksum]?).isSome) → vm.pin state checksums = .ok ()

/-- The world with one more code. -/
def World.addCode (w : World (Multistore ε) Shared) (c : Code) : World (Multistore ε) Shared :=
  { w with
    ms := { w.ms with wasm := w.ms.wasm.storeCodeInfo c.codeID c.codeInfo }
    shared := { w.shared with vm := { w.shared.vm with
      codes := w.shared.vm.codes.insert c.codeInfo.codeHash c.codeBytes } } }

theorem importCode_runs {c : Code} (hc : c.Accepted k)
    (hnew : w.ms.wasm.containsCodeInfo c.codeID = false) :
    k.importCode c.codeID c.codeInfo c.codeBytes w = (.ok (), w.addCode c) := by
  have hunpack : k.unpackImport c.codeBytes = .ok c.codeBytes := by
    rw [Keeper.unpackImport, hc.plain]
    rfl
  have hstore : k.storeCodeUnchecked c.codeBytes w = (.ok c.codeInfo.codeHash, { w with
      shared := { w.shared with vm := { w.shared.vm with
        codes := w.shared.vm.codes.insert c.codeInfo.codeHash c.codeBytes } } }) := by
    rw [Keeper.storeCodeUnchecked, hc.compiles, hc.hash]
    rfl
  rw [Keeper.importCode, GoM.bind_run_ok (orError_ok_iff.mpr ⟨hunpack, rfl⟩),
    GoM.bind_run_ok hstore, GoM.bind_run_ok (GoM.ensure_run_true rfl _ _),
    GoM.bind_run_ok (readStore_ok_iff.mpr ⟨rfl, rfl⟩),
    GoM.bind_run_ok (GoM.ensure_run_true hnew _ _)]
  rfl

/-- What is collected for the VM are checksums of codes that it has. -/
theorem collect_filed (hpins : s.PinsStored) {files : KVStore Bytes}
    (hfiled : ∀ id info, s.getCodeInfo id = some info → (files[info.codeHash]?).isSome) :
    ∃ checksums, s.collectPinnedChecksums none = .ok checksums ∧
      ∀ checksum ∈ checksums, (files[checksum]?).isSome := by
  obtain ⟨checksums, hcollect⟩ := hpins.collect none
  refine ⟨checksums, hcollect, fun checksum hmem => ?_⟩
  obtain ⟨id, info, -, -, hinfo, rfl⟩ := (mem_collectPinnedChecksums hpins hcollect).mp hmem
  exact hfiled id info hinfo

theorem pinCode_runs (hvm : k.wasmVM.LoadsStored) {codeID : UInt64} {info : CodeInfo}
    (hinfo : w.ms.wasm.getCodeInfo codeID = some info) (hpins : w.ms.wasm.PinsStored)
    (hfiled : w.durable.CodesFiled) {used : UInt64} (hgas : w.gas = .infinite used)
    (hfit : used.toNat + k.gasRegister.c.pinCodeCost.toNat < 2 ^ 64) :
    ∃ w', k.pinCode codeID w = (.ok (), w') ∧ w'.ms.wasm = w.ms.wasm.mark codeID ∧
      w'.shared.vm.codes = w.shared.vm.codes ∧
      w'.gas = .infinite (used + k.gasRegister.c.pinCodeCost) := by
  obtain ⟨checksums, hcollect, hknown⟩ := collect_filed hpins hfiled
  have hcharge : (consumeGas k.gasRegister.c.pinCodeCost "Loading CosmWasm module: pin code" :
      KeeperM ε Unit) w =
        (.ok (), { w with gas := .infinite (used + k.gasRegister.c.pinCodeCost) }) := by
    have hlimit : used.toNat + k.gasRegister.c.pinCodeCost.toNat ≤ maxUint64.toNat := by
      rw [GasMeter.toNat_maxUint64]
      omega
    refine consumeGas_ok_iff.mpr ⟨_, ?_, rfl⟩
    rw [hgas]
    exact GasMeter.consumeGas_run (m := .infinite used) _ hfit hlimit
  have hloaded : k.wasmVM.pin w.shared.vm (checksums ++ [info.codeHash]) = .ok () := by
    refine hvm _ _ fun checksum hmem => ?_
    rcases List.mem_append.mp hmem with hold | hself
    · exact hknown checksum hold
    · rw [List.mem_singleton.mp hself]
      exact hfiled codeID info hinfo
  rw [Keeper.pinCode, GoM.bind_run_ok (readStore_ok_iff.mpr ⟨rfl, rfl⟩),
    GoM.bind_run_ok (GoM.ofOption_ok_iff.mpr ⟨hinfo, rfl⟩), GoM.bind_run_ok hcharge,
    GoM.bind_run_ok (readStore_ok_iff.mpr ⟨rfl, rfl⟩),
    GoM.bind_run_ok (orError_ok_iff.mpr ⟨hcollect, rfl⟩), GoM.bind_run, Keeper.syncPinnedCodes,
    Keeper.syncCodes, hloaded]
  exact ⟨_, rfl, rfl, rfl, rfl⟩

theorem pinned_mark {codeID : UInt64} {key : Bytes} :
    (s.mark codeID).pinned[key]? = some () ↔
      s.pinned[key]? = some () ∨ pinnedCodeIndexPrefix codeID = key := by
  by_cases hkey : key = pinnedCodeIndexPrefix codeID
  · subst hkey
    exact iff_of_true (getElem?_insert_self _ _ _) (.inr rfl)
  · rw [or_iff_left (Ne.symm hkey)]
    exact Iff.of_eq (congrArg (· = some ()) (getElem?_insert_of_ne _ _ hkey))

/-- The codes of a list were imported, and nothing else lies where codes are stored and marked. -/
structure CodesRestored (k : Keeper ε C) (w₀ : World (Multistore ε) Shared) (done : List Code)
    (w : World (Multistore ε) Shared) : Prop where
  imported : CodesImported w₀.ms.wasm done w.ms.wasm
  codes : ∀ key info, w.ms.wasm.codes[key]? = some info ↔
    ∃ c ∈ done, codeKey c.codeID = key ∧ c.codeInfo = info
  pinned : ∀ key : Bytes, w.ms.wasm.pinned[key]? = some () ↔
    ∃ c ∈ done, c.pinned = true ∧ pinnedCodeIndexPrefix c.codeID = key
  files : ∀ c ∈ done, (w.shared.vm.codes[c.codeInfo.codeHash]?).isSome
  gas : ∃ used, w.gas = .infinite used ∧ used.toNat = w₀.gas.gasConsumed.toNat +
    done.countP (·.pinned) * k.gasRegister.c.pinCodeCost.toNat

namespace CodesRestored

variable {done : List Code}

theorem getCodeInfo_iff (h : CodesRestored k w₀ done w) {id : UInt64} {info : CodeInfo} :
    w.ms.wasm.getCodeInfo id = some info ↔ ∃ c ∈ done, c.codeID = id ∧ c.codeInfo = info := by
  rw [WasmStore.getCodeInfo, h.codes]
  simp only [codeKey_injective.eq_iff]

theorem filed (h : CodesRestored k w₀ done w) : w.durable.CodesFiled := by
  intro id info hinfo
  obtain ⟨c, hc, -, rfl⟩ := h.getCodeInfo_iff.mp hinfo
  exact h.files c hc

theorem pinsStored (h : CodesRestored k w₀ done w) : w.ms.wasm.PinsStored := by
  intro key hkey
  obtain ⟨c, hc, -, rfl⟩ := (h.pinned key).mp hkey
  exact ⟨c.codeID, rfl, Option.isSome_of_eq_some (h.getCodeInfo_iff.mpr ⟨c, hc, rfl, rfl⟩)⟩

/-- A code that is not there yet is added with its file. -/
theorem filed_addCode (h : CodesRestored k w₀ done w) (c : Code) :
    (w.addCode c).durable.CodesFiled := by
  intro id info hinfo
  by_cases hid : id = c.codeID
  · rw [hid, show (w.addCode c).durable.store.getCodeInfo c.codeID = some c.codeInfo from
      WasmStore.getCodeInfo_storeCodeInfo_self _ _ _] at hinfo
    cases hinfo
    exact Option.isSome_of_eq_some (getElem?_insert_self _ _ _)
  · rw [show (w.addCode c).durable.store.getCodeInfo id = w.ms.wasm.getCodeInfo id from
      WasmStore.getCodeInfo_storeCodeInfo_of_ne _ _ hid] at hinfo
    exact isSome_insert (h.filed id info hinfo)

theorem pinsStored_addCode (h : CodesRestored k w₀ done w) (c : Code) :
    (w.addCode c).ms.wasm.PinsStored := by
  intro key hkey
  obtain ⟨id, hid, hsome⟩ := h.pinsStored key hkey
  exact ⟨id, hid, isSome_storeCodeInfo hsome⟩

/-- One more code, marked or not. -/
theorem code (h : CodesRestored k w₀ done w) {c : Code} {w' : World (Multistore ε) Shared}
    (hnew : w.ms.wasm.getCodeInfo c.codeID = none)
    (hrest : { w'.ms.wasm with pinned := ∅ } = { (w.addCode c).ms.wasm with pinned := ∅ })
    (hpinned : ∀ key : Bytes, w'.ms.wasm.pinned[key]? = some () ↔
      w.ms.wasm.pinned[key]? = some () ∨ c.pinned = true ∧ pinnedCodeIndexPrefix c.codeID = key)
    (hfiles : w'.shared.vm.codes = (w.addCode c).shared.vm.codes)
    (hgas : ∃ used used', w.gas = .infinite used ∧ w'.gas = .infinite used' ∧ used'.toNat =
      used.toNat + (if c.pinned then 1 else 0) * k.gasRegister.c.pinCodeCost.toNat) :
    CodesRestored k w₀ (done ++ [c]) w' := by
  have hcodes : w'.ms.wasm.codes = (w.ms.wasm.storeCodeInfo c.codeID c.codeInfo).codes :=
    congrArg (·.codes) hrest
  refine ⟨h.imported.code c ?_ hcodes, fun key info => ?_, fun key => ?_, fun c' hc' => ?_, ?_⟩
  · exact congrArg (fun s : WasmStore => { s with codes := ∅ }) hrest
  · have hmem : (∃ c' ∈ done ++ [c], codeKey c'.codeID = key ∧ c'.codeInfo = info) ↔
        (∃ c' ∈ done, codeKey c'.codeID = key ∧ c'.codeInfo = info) ∨
          codeKey c.codeID = key ∧ c.codeInfo = info := by
      simp [or_and_right, exists_or]
    rw [hmem, hcodes, ← h.codes]
    by_cases hkey : key = codeKey c.codeID
    · subst hkey
      have hnone : w.ms.wasm.codes[codeKey c.codeID]? = none := hnew
      rw [show (w.ms.wasm.storeCodeInfo c.codeID c.codeInfo).codes[codeKey c.codeID]? = _ from
        getElem?_insert_self _ _ _, hnone]
      simp
    · rw [show (w.ms.wasm.storeCodeInfo c.codeID c.codeInfo).codes[key]? = _ from
        getElem?_insert_of_ne _ _ hkey]
      simp [Ne.symm hkey]
  · rw [hpinned, h.pinned]
    simp [or_and_right, exists_or]
  · rw [hfiles]
    rcases List.mem_append.mp hc' with hold | hself
    · exact isSome_insert (h.files c' hold)
    · rw [List.mem_singleton.mp hself]
      exact Option.isSome_of_eq_some (getElem?_insert_self _ _ _)
  · obtain ⟨used, used', hused, hused', hsum⟩ := hgas
    obtain ⟨used₁, hused₁, hbefore⟩ := h.gas
    cases hused.symm.trans hused₁
    refine ⟨used', hused', ?_⟩
    rw [hsum, hbefore, List.countP_append, List.countP_singleton, Nat.add_mul, Nat.add_assoc]

end CodesRestored

/-- The store before the codes: nothing lies where codes are stored and marked. -/
theorem CodesRestored.start (hcodes : w.ms.wasm.codes = ∅) (hpinned : w.ms.wasm.pinned = ∅)
    {used : UInt64} (hgas : w.gas = .infinite used) : CodesRestored k w [] w where
  imported := ⟨rfl, fun id => by simp⟩
  codes key info := by simp [hcodes]
  pinned key := by simp [hpinned]
  files c hc := absurd hc List.not_mem_nil
  gas := ⟨used, hgas, by rw [hgas]; simp [GasMeter.gasConsumed]⟩

/-- **The loop over the codes goes on to the end.** -/
theorem importCodes_runs (hvm : k.wasmVM.LoadsStored) {codes : List Code}
    (haccepted : ∀ c ∈ codes, c.Accepted k) (hids : (codes.map (·.codeID)).Nodup)
    (hcodes : w.ms.wasm.codes = ∅) (hpinned : w.ms.wasm.pinned = ∅)
    (hraw : ∀ key : Bytes, w.ms.wasm.raw[key]? = none) {used : UInt64}
    (hgas : w.gas = .infinite used)
    (hfit : used.toNat + codes.countP (·.pinned) * k.gasRegister.c.pinCodeCost.toNat < 2 ^ 64) :
    ∃ w', k.importCodes codes w = (.ok (), w') ∧ CodesRestored k w codes w' := by
  refine GoM.forEachFrom_runs (P := CodesRestored k w) (fun i done c rest w₁ hl h => ?_)
    (.start hcodes hpinned hgas)
  have hc : c.Accepted k := haccepted c (by rw [hl]; simp)
  have hnew : w₁.ms.wasm.getCodeInfo c.codeID = none := by
    rw [Option.eq_none_iff_forall_ne_some]
    intro info hinfo
    obtain ⟨c', hc', hid, -⟩ := h.getCodeInfo_iff.mp hinfo
    rw [hl, List.map_append, List.map_cons] at hids
    exact (List.nodup_append.mp hids).2.2 _ (List.mem_map_of_mem hc') _ List.mem_cons_self hid
  have hcontains : w₁.ms.wasm.containsCodeInfo c.codeID = false := by
    rw [WasmStore.containsCodeInfo_eq, hnew,
      show w₁.ms.wasm.raw = w.ms.wasm.raw from congrArg (·.raw) h.imported.rest, hraw]
    rfl
  obtain ⟨used₁, hgas₁, hsum⟩ := h.gas
  rw [GoM.bind_run_ok (GoM.mapError_ok_iff.mpr (importCode_runs hc hcontains))]
  cases hpin : c.pinned with
  | false =>
      refine ⟨_, rfl, h.code hnew rfl (fun key => ?_) rfl ⟨used₁, used₁, hgas₁, hgas₁, ?_⟩⟩
      · rw [hpin]
        exact (or_iff_left fun hno => Bool.false_ne_true hno.1).symm
      · simp [hpin]
  | true =>
      have hfit₁ : used₁.toNat + k.gasRegister.c.pinCodeCost.toNat < 2 ^ 64 := by
        rw [hl, List.countP_append, List.countP_cons_of_pos hpin, Nat.add_mul, Nat.add_mul] at hfit
        rw [hsum, hgas]
        show used.toNat + _ + _ < _
        omega
      obtain ⟨w₂, hrun, hmark, hfiles, hgas₂⟩ := pinCode_runs (w := w₁.addCode c) hvm
        (WasmStore.getCodeInfo_storeCodeInfo_self _ c.codeID _) (h.pinsStored_addCode c)
        (h.filed_addCode c) hgas₁ hfit₁
      refine ⟨w₂, GoM.mapError_ok_iff.mpr hrun, h.code hnew ?_ (fun key => ?_) hfiles
        ⟨used₁, _, hgas₁, hgas₂, ?_⟩⟩
      · rw [hmark]
        rfl
      · rw [hmark, pinned_mark, hpin, eq_self, true_and]
        rfl
      · rw [GasMeter.toNat_add_of_lt hfit₁]
        simp [hpin]

/-! ## Contracts -/

/-- The entries of a contract's storage go in one after the other. -/
theorem importContractState_runs {a : AccAddress} {models : List Model}
    (hraw : ∀ key : Bytes, w.ms.wasm.raw[key]? = none)
    (hfresh : ∀ key, w.ms.wasm.contractState[contractStorePrefix a ++ key]? = none)
    (hkeys : (models.map (·.key)).Nodup) (hne : ∀ model ∈ models, model.key ≠ []) :
    ∃ w', (Keeper.importContractState a models : KeeperM ε Unit) w = (.ok (), w') ∧
      w'.ms.wasm.registry = w.ms.wasm.registry ∧
      ∀ key value, w'.ms.wasm.contractState[key]? = some value ↔
        w.ms.wasm.contractState[key]? = some value ∨
          ∃ model ∈ models, contractStorePrefix a ++ model.key = key ∧ model.value = value := by
  let P (done : List Model) (w₁ : World (Multistore ε) Shared) : Prop :=
    w₁.ms.wasm.registry = w.ms.wasm.registry ∧
      ∀ key value, w₁.ms.wasm.contractState[key]? = some value ↔
        w.ms.wasm.contractState[key]? = some value ∨
          ∃ model ∈ done, contractStorePrefix a ++ model.key = key ∧ model.value = value
  have hstep : ∀ done model rest w₁, models = done ++ model :: rest → P done w₁ →
      ∃ w₂, (Keeper.importModel a model : KeeperM ε Unit) w₁ = (.ok (), w₂) ∧
        P (done ++ [model]) w₂ := by
    rintro done model rest w₁ hl ⟨hregistry, hstate⟩
    have hnone : w₁.ms.wasm.contractState[contractStorePrefix a ++ model.key]? = none := by
      rw [Option.eq_none_iff_forall_ne_some]
      intro value hvalue
      rcases (hstate _ value).mp hvalue with hold | ⟨model', hmodel', hkey, -⟩
      · rw [hfresh] at hold
        cases hold
      · rw [hl, List.map_append, List.map_cons] at hkeys
        exact (List.nodup_append.mp hkeys).2.2 _ (List.mem_map_of_mem hmodel') _ List.mem_cons_self
          (List.append_cancel_left hkey)
    have hfound : w₁.ms.wasm.has (contractStorePrefix a ++ model.key) = false := by
      show (w₁.ms.wasm.contractState[contractStorePrefix a ++ model.key]?.isSome ||
        w₁.ms.wasm.raw[contractStorePrefix a ++ model.key]?.isSome) = false
      rw [hnone, show w₁.ms.wasm.raw = w.ms.wasm.raw from congrArg (·.raw) hregistry, hraw]
      rfl
    have hkey : model.key ≠ [] := hne model (by rw [hl]; simp)
    rw [Keeper.importModel, GoM.bind_run_ok (readStore_ok_iff.mpr ⟨rfl, rfl⟩),
      GoM.bind_run_ok (GoM.ensure_run_true hfound _ _),
      GoM.bind_run_ok (orPanic_ok_iff.mpr ⟨if_neg hkey, rfl⟩)]
    refine ⟨_, rfl, hregistry, fun key value => ?_⟩
    have hmem : (∃ model' ∈ done ++ [model], contractStorePrefix a ++ model'.key = key ∧
        model'.value = value) ↔ (∃ model' ∈ done, contractStorePrefix a ++ model'.key = key ∧
        model'.value = value) ∨ contractStorePrefix a ++ model.key = key ∧ model.value = value := by
      simp only [List.mem_append, List.mem_singleton, or_and_right, exists_or, exists_eq_left]
    rw [hmem, ← or_assoc, ← hstate]
    show (w₁.ms.wasm.contractState.insert _ _)[key]? = some value ↔ _
    by_cases hkey : key = contractStorePrefix a ++ model.key
    · subst hkey
      rw [getElem?_insert_self, hnone]
      simp
    · rw [getElem?_insert_of_ne _ _ hkey]
      simp [Ne.symm hkey]
  obtain ⟨w', hrun, hregistry, hstate⟩ := GoM.forEach_runs hstep
    (⟨rfl, fun key value => by simp⟩ : P [] w)
  exact ⟨w', hrun, hregistry, hstate⟩

theorem Registration.getLastD_eq {codec : AddressCodec} (r : Registration codec) :
    r.history.getLastD r.first = r.last := by
  rw [List.getLastD_eq_getLast?, r.getLast_eq]
  rfl

/-- A registered contract is imported where its code is stored and its address is free. -/
theorem importContract_runs {a : AccAddress} {r : Registration k.codec} {models : List Model}
    (hcode : w.ms.wasm.containsCodeInfo r.info.codeID = true)
    (hnew : w.ms.wasm.hasContractInfo a = false)
    (hraw : ∀ key : Bytes, w.ms.wasm.raw[key]? = none)
    (hfresh : ∀ key, w.ms.wasm.contractState[contractStorePrefix a ++ key]? = none)
    (hkeys : (models.map (·.key)).Nodup) (hne : ∀ model ∈ models, model.key ≠ []) :
    ∃ w', k.importContract a r.info models r.history w = (.ok (), w') ∧
      w'.ms.wasm.registry =
        (w.ms.wasm.registerImport r.creator a r.info r.history r.first r.last).registry ∧
      ∀ key value, w'.ms.wasm.contractState[key]? = some value ↔
        w.ms.wasm.contractState[key]? = some value ∨
          ∃ model ∈ models, contractStorePrefix a ++ model.key = key ∧ model.value = value := by
  have hcreator : (k.codec.accAddressFromBech32 r.info.creator).mapError GoError.foreign =
      .ok r.creator := by
    rw [r.creator_eq]
    rfl
  generalize hs₁ : w.ms.wasm.registerImport r.creator a r.info r.history r.first r.last = s₁
  obtain ⟨hstate₁, hraw₁⟩ : s₁.contractState = w.ms.wasm.contractState ∧
      s₁.raw = w.ms.wasm.raw := by
    rw [← hs₁, WasmStore.registerImport, appendToContractHistory_eq]
    exact ⟨rfl, rfl⟩
  obtain ⟨w', hrun, hregistry, hstate⟩ := importContractState_runs (a := a)
    (w := { w with ms := { w.ms with wasm := s₁ } }) (fun key => by rw [hraw₁]; exact hraw key)
    (fun key => by rw [hstate₁]; exact hfresh key) hkeys hne
  refine ⟨w', ?_, hregistry, fun key value => ?_⟩
  · rw [Keeper.importContract, GoM.bind_run_ok (readStore_ok_iff.mpr ⟨rfl, rfl⟩),
      GoM.bind_run_ok (GoM.ensure_run_true hcode _ _),
      GoM.bind_run_ok (readStore_ok_iff.mpr ⟨rfl, rfl⟩),
      GoM.bind_run_ok (GoM.ensure_run_true hnew _ _),
      GoM.bind_run_ok (GoM.ofOption_ok_iff.mpr ⟨r.head_eq, rfl⟩),
      GoM.bind_run_ok (orError_ok_iff.mpr ⟨hcreator, rfl⟩), r.getLastD_eq]
    exact GoM.bind_ok_iff.mpr ⟨(), _, writeStore_ok_iff.mpr rfl, hs₁ ▸ hrun⟩
  · rw [hstate]
    show s₁.contractState[key]? = some value ∨ _ ↔ _
    rw [hstate₁]

/-- Contracts of a store, as an export shows them. -/
def Keeper.exportedContract (k : Keeper ε C) (s : WasmStore) (a : AccAddress)
    (info : ContractInfo) : Contract :=
  ⟨k.codec.string a, info, s.contractModels a, s.getContractHistory a⟩

/-- The registrations of the contracts in a list. -/
def registrationsOf {codec : AddressCodec} (R : AccAddress → Option (Registration codec))
    (done : List Contract) (a : AccAddress) : Option (Registration codec) :=
  if codec.string a ∈ done.map (·.contractAddress) then R a else none

theorem registrationsOf_concat {codec : AddressCodec} {R : AccAddress → Option (Registration codec)}
    {done : List Contract} {c : Contract} {a : AccAddress}
    (hc : c.contractAddress = codec.string a) :
    registrationsOf R (done ++ [c]) = Function.update (registrationsOf R done) a (R a) := by
  funext b
  unfold registrationsOf
  by_cases hb : b = a
  · subst hb
    simp [hc]
  · have hne : codec.string b ≠ c.contractAddress := by
      rw [hc]
      exact fun h => hb (codec.string_injective h)
    simp [hb, hne]

/-- The contracts of a list were imported with all they have in the store `s`. -/
structure ContractsRestored (k : Keeper ε C) (s : WasmStore)
    (R : AccAddress → Option (Registration k.codec)) (w₀ : World (Multistore ε) Shared)
    (done : List Contract) (w : World (Multistore ε) Shared) : Prop where
  registry : HoldsRegistry w.ms.wasm (registrationsOf R done)
  keys : w.ms.wasm.ContractKeys
  rest : w.ms.wasm.withoutContracts = w₀.ms.wasm.withoutContracts
  state : ∀ key value, w.ms.wasm.contractState[key]? = some value ↔
    s.contractState[key]? = some value ∧
      ∃ a, k.codec.string a ∈ done.map (·.contractAddress) ∧ contractStorePrefix a <+: key

/-- Storage lies behind the prefix of one contract only. -/
theorem contractStorePrefix_eq {a b : AccAddress} (hlen : a.bytes.length = b.bytes.length)
    {key : Bytes} (ha : contractStorePrefix a <+: key) (hb : contractStorePrefix b <+: key) :
    a = b := by
  have hsame : contractStorePrefix a = contractStorePrefix b :=
    (List.prefix_of_prefix_length_le ha hb (by simp [contractStorePrefix, hlen])).eq_of_length
      (by simp [contractStorePrefix, hlen])
  exact AccAddress.bytes_injective (List.cons.inj hsame).2

theorem mem_contractModels {a : AccAddress} {model : Model} :
    model ∈ s.contractModels a ↔
      s.contractState[contractStorePrefix a ++ model.key]? = some model.value := by
  rw [WasmStore.contractModels, List.mem_map]
  constructor
  · rintro ⟨⟨key, value⟩, hmem, rfl⟩
    exact mem_entries.mp hmem
  · intro h
    exact ⟨(model.key, model.value), mem_entries.mpr h, rfl⟩

/-- The entries of a contract have keys. -/
theorem WasmStore.StateOwned.key_ne_nil (h : s.StateOwned)
    (hlengths : ∀ a, (s.getContractInfo a).isSome → a.bytes.length = 32) {a : AccAddress}
    (ha : (s.getContractInfo a).isSome) : ∀ model ∈ s.contractModels a, model.key ≠ [] := by
  intro model hmem
  obtain ⟨b, own, hb, hne, heq⟩ :=
    h _ (Option.isSome_of_eq_some (mem_contractModels.mp hmem))
  obtain rfl : a = b := contractStorePrefix_eq ((hlengths a ha).trans (hlengths b hb).symm)
    (List.prefix_append _ model.key) (heq ▸ List.prefix_append _ own)
  rwa [List.append_cancel_left heq]

theorem nodup_keys_contractModels (s : WasmStore) (a : AccAddress) :
    ((s.contractModels a).map (·.key)).Nodup := by
  rw [WasmStore.contractModels, List.map_map]
  exact nodup_keys_entries _ _

/-- **The loop over the contracts goes on to the end.** -/
theorem importContracts_runs {R : AccAddress → Option (Registration k.codec)}
    (hR : HoldsRegistry s R) (hlengths : ∀ a, (s.getContractInfo a).isSome → a.bytes.length = 32)
    (howned : s.StateOwned) {contracts : List Contract}
    (hcontracts : ∀ c ∈ contracts, ∃ a info, s.getContractInfo a = some info ∧
      c = k.exportedContract s a info)
    (haddresses : (contracts.map (·.contractAddress)).Nodup)
    (hcodes : ∀ id, (s.getCodeInfo id).isSome → (w.ms.wasm.getCodeInfo id).isSome)
    (hstart : HoldsRegistry w.ms.wasm fun _ => (none : Option (Registration k.codec)))
    (hkeys : w.ms.wasm.ContractKeys) (hstate : w.ms.wasm.contractState = ∅) :
    ∃ w', k.importContracts contracts w = (.ok (), w') ∧
      ContractsRestored k s R w contracts w' := by
  refine GoM.forEachFrom_runs (P := ContractsRestored k s R w) (fun i done c rest w₁ hl h => ?_)
    ⟨hstart, hkeys, rfl, fun key value => by simp [hstate]⟩
  obtain ⟨a, info, hinfo, rfl⟩ := hcontracts c (by rw [hl]; simp)
  obtain ⟨r, hr, rfl⟩ := hR.registration hinfo
  have hnotdone : k.codec.string a ∉ done.map (·.contractAddress) := by
    rw [hl, List.map_append, List.map_cons] at haddresses
    exact fun hmem => (List.nodup_append.mp haddresses).2.2 _ hmem _ List.mem_cons_self rfl
  have hnone : registrationsOf R done a = none := if_neg hnotdone
  have hlength : r.history.length < 2 ^ 64 := by
    have := hR.histories.length_lt a
    rwa [hr] at this
  have hhistory : s.getContractHistory a = r.history := by
    rw [hR.histories.getContractHistory_eq, hr]
    rfl
  have hcode : (w₁.ms.wasm.getCodeInfo r.info.codeID).isSome := by
    rw [show w₁.ms.wasm.getCodeInfo r.info.codeID = w.ms.wasm.getCodeInfo r.info.codeID from
      congrArg (·.getCodeInfo r.info.codeID) h.rest]
    exact hcodes _ (hR.codes a r hr)
  have hcontains : w₁.ms.wasm.containsCodeInfo r.info.codeID = true := by
    rw [WasmStore.containsCodeInfo_eq, hcode]
    rfl
  have hfree : w₁.ms.wasm.hasContractInfo a = false := by
    rw [WasmStore.hasContractInfo_eq, h.registry.contracts, hnone, h.registry.raw]
    rfl
  have hfresh : ∀ key, w₁.ms.wasm.contractState[contractStorePrefix a ++ key]? = none := by
    intro key
    rw [Option.eq_none_iff_forall_ne_some]
    intro value hvalue
    obtain ⟨-, b, hb, hunder⟩ := (h.state _ value).mp hvalue
    obtain ⟨c', hc', haddr⟩ := List.mem_map.mp hb
    obtain ⟨b', info', hinfo', rfl⟩ := hcontracts c' (by rw [hl]; exact List.mem_append_left _ hc')
    obtain rfl : b' = b := k.codec.string_injective haddr
    have hsame : b' = a := contractStorePrefix_eq
      ((hlengths b' (Option.isSome_of_eq_some hinfo')).trans
        (hlengths a (Option.isSome_of_eq_some hinfo)).symm) hunder (List.prefix_append _ _)
    exact hnotdone (hsame ▸ hb)
  obtain ⟨w₂, hrun, hregistry, hwritten⟩ := importContract_runs (r := r) hcontains hfree
    h.registry.raw hfresh (nodup_keys_contractModels s a)
    (howned.key_ne_nil hlengths (Option.isSome_of_eq_some hinfo))
  have hdecode : ((k.codec.accAddressFromBech32 (k.codec.string a)).mapError fun err =>
      GoError.wrapped s!"address in contract number {i}" (.foreign err)) = .ok a := by
    rw [k.codec.decode_string]
    rfl
  refine ⟨w₂, ?_, ?_, ?_, ?_, fun key value => ?_⟩
  · refine GoM.bind_ok_iff.mpr ⟨a, w₁, orError_ok_iff.mpr ⟨hdecode, rfl⟩,
      GoM.mapError_ok_iff.mpr ?_⟩
    show k.importContract a r.info (s.contractModels a) (s.getContractHistory a) w₁ = _
    rw [hhistory]
    exact hrun
  · rw [registrationsOf_concat (a := a) rfl, hr]
    exact (h.registry.registerImport r hnone hlength hcode).congr_registry hregistry
  · have hstored : w₂.ms.wasm.contracts = (w₁.ms.wasm.storeContractInfo a r.info).contracts := by
      refine (congrArg (·.contracts) hregistry).trans ?_
      rw [WasmStore.registerImport, appendToContractHistory_eq]
      rfl
    unfold WasmStore.ContractKeys
    rw [hstored]
    exact h.keys.store a r.info
  · refine Eq.trans ?_ h.rest
    rw [WasmStore.registerImport, appendToContractHistory_eq] at hregistry
    have hrest := congrArg WasmStore.withoutContracts hregistry
    exact hrest
  · have hunder : (∃ model ∈ s.contractModels a, contractStorePrefix a ++ model.key = key ∧
        model.value = value) ↔
            s.contractState[key]? = some value ∧ contractStorePrefix a <+: key := by
      constructor
      · rintro ⟨model, hmem, rfl, rfl⟩
        exact ⟨mem_contractModels.mp hmem, List.prefix_append _ _⟩
      · rintro ⟨hvalue, rest', rfl⟩
        exact ⟨⟨rest', value⟩, mem_contractModels.mpr hvalue, rfl, rfl⟩
    have hmem : (∃ b, k.codec.string b ∈ (done ++ [k.exportedContract s a r.info]).map
        (·.contractAddress) ∧ contractStorePrefix b <+: key) ↔
        (∃ b, k.codec.string b ∈ done.map (·.contractAddress) ∧ contractStorePrefix b <+: key) ∨
          contractStorePrefix a <+: key := by
      simp only [List.map_append, List.map_cons, List.map_nil, List.mem_append, List.mem_singleton,
        Keeper.exportedContract, k.codec.string_injective.eq_iff, or_and_right, exists_or,
        exists_eq_left]
    rw [hwritten, h.state, hunder, hmem, and_or_left]

/-! ## Sequences -/

theorem importAutoIncrementID_runs {key : Bytes} (hnew : w.ms.wasm.has key = false) (val : UInt64) :
    (Keeper.importAutoIncrementID key val : KeeperM ε Unit) w = (.ok (), { w with
      ms := { w.ms with wasm := w.ms.wasm.setBytes key (uint64ToBigEndian val) } }) := by
  rw [Keeper.importAutoIncrementID, GoM.bind_run_ok (readStore_ok_iff.mpr ⟨rfl, rfl⟩),
    GoM.bind_run_ok (GoM.ensure_run_true hnew _ _)]
  rfl

/-- **The loop over the sequences goes on to the end.** -/
theorem importSequences_runs {sequences : List Sequence} (hkeys : (sequences.map (·.idKey)).Nodup)
    (hnew : ∀ seq ∈ sequences, w.ms.wasm.has seq.idKey = false) :
    ∃ w', (Keeper.importSequences sequences : KeeperM ε Unit) w = (.ok (), w') ∧
      SequencesImported w.ms.wasm sequences w'.ms.wasm := by
  refine GoM.forEachFrom_runs
    (P := fun done (w₁ : World (Multistore ε) Shared) =>
      SequencesImported w.ms.wasm done w₁.ms.wasm) (fun i done seq rest w₁ hl h => ?_)
    ⟨rfl, fun key => by simp, fun t => by simp, fun seq hseq => absurd hseq List.not_mem_nil⟩
  have hfound : w₁.ms.wasm.has seq.idKey = false := by
    rw [← Bool.not_eq_true, h.has, not_or]
    refine ⟨by rw [hnew seq (by rw [hl]; simp)]; exact Bool.false_ne_true, ?_⟩
    rintro ⟨seq', hseq', hkey⟩
    rw [hl, List.map_append, List.map_cons] at hkeys
    exact (List.nodup_append.mp hkeys).2.2 _ (List.mem_map_of_mem hseq') _ List.mem_cons_self hkey
  exact ⟨_, GoM.mapError_ok_iff.mpr (importAutoIncrementID_runs hfound _), h.sequence hfound⟩

/-- The value of an imported sequence. -/
theorem SequencesImported.peek {s₀ s : WasmStore} {done : List Sequence}
    (h : SequencesImported s₀ done s) (hs₀ : s₀.sequences = ∅) (hkeys : (done.map (·.idKey)).Nodup)
    {t : Bytes} {value : UInt64} (hmem : ⟨0x04 :: t, value⟩ ∈ done) :
    s.peekAutoIncrementID (0x04 :: t) = value := by
  have hfind : done.find? (·.idKey = 0x04 :: t) = some ⟨0x04 :: t, value⟩ := by
    obtain ⟨seq, hseq⟩ : ∃ seq, done.find? (·.idKey = 0x04 :: t) = some seq :=
      Option.isSome_iff_exists.mp (List.find?_isSome.mpr ⟨_, hmem, by simp⟩)
    have hkey : seq.idKey = 0x04 :: t := by simpa using List.find?_some hseq
    rw [hseq, List.inj_on_of_nodup_map hkeys (List.mem_of_find?_eq_some hseq) hmem hkey]
  have hvalue := h.values t
  rw [hs₀, hfind] at hvalue
  rw [WasmStore.peekAutoIncrementID, hvalue]
  exact bigEndianToUint64_uint64ToBigEndian value

theorem maxCodeID_lt {codes : List Code} {n : UInt64} (hpos : 0 < n)
    (h : ∀ c ∈ codes, c.codeID < n) : Keeper.maxCodeID codes < n := by
  have hfold : ∀ (codes : List Code) (m : UInt64), m < n → (∀ c ∈ codes, c.codeID < n) →
      codes.foldl
        (fun greatest code => if greatest < code.codeID then code.codeID else greatest) m <
        n := by
    intro codes
    induction codes with
    | nil => exact fun m hm _ => hm
    | cons c rest ih =>
        intro m hm hall
        obtain ⟨hc, hrest⟩ := List.forall_mem_cons.mp hall
        refine ih _ ?_ hrest
        show (if m < c.codeID then c.codeID else m) < n
        split_ifs
        · exact hc
        · exact hm
  exact hfold codes 0 hpos h

theorem checkSequences_runs {codes : List Code}
    (hmax : Keeper.maxCodeID codes < w.ms.wasm.peekAutoIncrementID keySequenceCodeID)
    (hfree : w.ms.wasm.hasContractInfo (k.buildContractAddressClassic w.ms.wasm.nextInstanceID
      w.ms.wasm.nextInstanceID) = false) : k.checkSequences codes w = (.ok (), w) := by
  have hbranch : onBranch (k.generateAddress w.ms.wasm.nextInstanceID [] .classic) w =
      (.ok (k.buildContractAddressClassic w.ms.wasm.nextInstanceID w.ms.wasm.nextInstanceID),
        w) := rfl
  rw [Keeper.checkSequences, GoM.bind_run_ok (readStore_ok_iff.mpr ⟨rfl, rfl⟩),
    GoM.bind_run_ok (GoM.ensure_run_true hmax _ _),
    GoM.bind_run_ok (readStore_ok_iff.mpr ⟨rfl, rfl⟩)]
  refine GoM.bind_ok_iff.mpr ⟨_, w, hbranch, ?_⟩
  rw [GoM.bind_run_ok (readStore_ok_iff.mpr ⟨rfl, rfl⟩)]
  exact GoM.ensure_run_true hfree _ _

/-! ## A genesis state that tells of a store -/

/-- The genesis state tells of the store and of the code files, in any order. -/
structure Describes (k : Keeper ε C) (d : Durable) (data : GenesisState) : Prop where
  params : d.store.params = some data.params
  codes : ∀ c, c ∈ data.codes ↔ d.store.getCodeInfo c.codeID = some c.codeInfo ∧
    d.files[c.codeInfo.codeHash]? = some c.codeBytes ∧ c.pinned = d.store.isPinnedCode c.codeID
  codeIDs : (data.codes.map (·.codeID)).Nodup
  contracts : ∀ c, c ∈ data.contracts ↔
    ∃ a info, d.store.getContractInfo a = some info ∧ c = k.exportedContract d.store a info
  addresses : (data.contracts.map (·.contractAddress)).Nodup
  sequences : data.sequences.Perm (Keeper.exportSequences d.store)

/-- The parts of the store that a genesis state tells of are the same. -/
structure SameGenesis (s s' : WasmStore) : Prop where
  params : s'.params = s.params
  codes : s'.codes = s.codes
  contracts : s'.contracts = s.contracts
  contractState : s'.contractState = s.contractState
  history : s'.history = s.history
  codeIndex : s'.codeIndex = s.codeIndex
  creatorIndex : s'.creatorIndex = s.creatorIndex
  pinned : s'.pinned = s.pinned
  nextCodeID : s'.nextCodeID = s.nextCodeID
  nextInstanceID : s'.nextInstanceID = s.nextInstanceID

namespace Describes

variable {d : Durable} {data : GenesisState}

/-- Every code of the store is told of. -/
theorem exists_code (h : Describes k d data) (hfiled : d.CodesFiled) {id : UInt64} {info : CodeInfo}
    (hinfo : d.store.getCodeInfo id = some info) :
    ∃ c ∈ data.codes, c.codeID = id ∧ c.codeInfo = info := by
  obtain ⟨code, hcode⟩ := Option.isSome_iff_exists.mp (hfiled id info hinfo)
  exact ⟨⟨id, info, code, d.store.isPinnedCode id⟩, (h.codes _).mpr ⟨hinfo, hcode, rfl⟩, rfl, rfl⟩

theorem idKeys (h : Describes k d data) :
    (data.sequences.map (·.idKey)).Perm [keySequenceCodeID, keySequenceInstanceID] :=
  h.sequences.map _

theorem sequence_known (h : Describes k d data) {seq : Sequence} (hseq : seq ∈ data.sequences) :
    seq.Known := by
  have hmem := h.idKeys.mem_iff.mp (List.mem_map_of_mem hseq)
  simpa [Sequence.Known] using hmem

theorem nodup_idKeys (h : Describes k d data) : (data.sequences.map (·.idKey)).Nodup :=
  h.idKeys.nodup_iff.mpr (by decide)

/-- The codes are restored. -/
theorem codes_eq (h : Describes k d data) (hd : Exportable k d)
    (hw : CodesRestored k w₀ data.codes w) : w.ms.wasm.codes = d.store.codes := by
  refine eq_of_getElem?_iff fun key info => ?_
  rw [hw.codes]
  constructor
  · rintro ⟨c, hc, rfl, rfl⟩
    exact ((h.codes c).mp hc).1
  · intro hkey
    obtain ⟨id, rfl⟩ := hd.codeKeys key info hkey
    obtain ⟨c, hc, rfl, rfl⟩ := h.exists_code hd.filed hkey
    exact ⟨c, hc, rfl, rfl⟩

/-- The marks are restored. -/
theorem pinned_eq (h : Describes k d data) (hd : Exportable k d)
    (hw : CodesRestored k w₀ data.codes w) : w.ms.wasm.pinned = d.store.pinned := by
  refine eq_of_getElem?_iff fun key ⟨⟩ => ?_
  rw [hw.pinned]
  constructor
  · rintro ⟨c, hc, hpin, rfl⟩
    rw [((h.codes c).mp hc).2.2] at hpin
    exact isPinnedCode_iff.mp hpin
  · intro hkey
    obtain ⟨id, rfl, hsome⟩ := hd.pins key hkey
    obtain ⟨info, hinfo⟩ := Option.isSome_iff_exists.mp hsome
    obtain ⟨c, hc, rfl, -⟩ := h.exists_code hd.filed hinfo
    exact ⟨c, hc, ((h.codes c).mp hc).2.2.trans (isPinnedCode_iff.mpr hkey), rfl⟩

theorem mem_addresses (h : Describes k d data) {a : AccAddress} :
    k.codec.string a ∈ data.contracts.map (·.contractAddress) ↔
      (d.store.getContractInfo a).isSome := by
  rw [List.mem_map]
  constructor
  · rintro ⟨c, hc, haddr⟩
    obtain ⟨b, info, hinfo, rfl⟩ := (h.contracts c).mp hc
    rw [← k.codec.string_injective haddr]
    exact Option.isSome_of_eq_some hinfo
  · intro hsome
    obtain ⟨info, hinfo⟩ := Option.isSome_iff_exists.mp hsome
    exact ⟨_, (h.contracts _).mpr ⟨a, info, hinfo, rfl⟩, rfl⟩

/-- All registrations are among those that are told of. -/
theorem registrationsOf_eq (h : Describes k d data)
    {R : AccAddress → Option (Registration k.codec)} (hR : HoldsRegistry d.store R) :
    registrationsOf R data.contracts = R := by
  funext a
  unfold registrationsOf
  by_cases hsome : (d.store.getContractInfo a).isSome
  · rw [if_pos (h.mem_addresses.mpr hsome)]
  · rw [if_neg fun hmem => hsome (h.mem_addresses.mp hmem)]
    exact (hR.eq_none (Option.not_isSome_iff_eq_none.mp hsome)).symm

/-- The storage is restored. -/
theorem contractState_eq (h : Describes k d data) (hd : Exportable k d)
    {R : AccAddress → Option (Registration k.codec)}
    (hw : ContractsRestored k d.store R w₀ data.contracts w) :
    w.ms.wasm.contractState = d.store.contractState := by
  refine eq_of_getElem?_iff fun key value => ?_
  rw [hw.state, and_iff_left_of_imp]
  intro hkey
  obtain ⟨a, own, ha, -, rfl⟩ := hd.state key (Option.isSome_of_eq_some hkey)
  exact ⟨a, h.mem_addresses.mpr ha, List.prefix_append _ _⟩

/-- The records are restored. -/
theorem contracts_eq {s s' : WasmStore} {R : AccAddress → Option (Registration k.codec)}
    (h : HoldsRegistry s R) (h' : HoldsRegistry s' R) (hkeys : s.ContractKeys)
    (hkeys' : s'.ContractKeys) : s'.contracts = s.contracts := by
  have hget : ∀ a, s'.contracts[contractAddressKey a]? = s.contracts[contractAddressKey a]? :=
    fun a => (h'.contracts a).trans (h.contracts a).symm
  refine eq_of_getElem?_iff fun key info => ⟨fun hkey => ?_, fun hkey => ?_⟩
  · obtain ⟨a, rfl⟩ := hkeys' key info hkey
    rwa [← hget]
  · obtain ⟨a, rfl⟩ := hkeys key info hkey
    rwa [hget]

/-- **A genesis state that tells of a store is accepted, and the store is restored.** -/
theorem restores (h : Describes k d data) (hd : Exportable k d)
    (hregistry : Registry k.codec d.store) (hnumbered : CodesNumbered d.store)
    (hfree : d.store.getContractInfo (k.buildContractAddressClassic d.store.nextInstanceID
      d.store.nextInstanceID) = none)
    (hvm : k.wasmVM.LoadsStored) (haccepted : ∀ c ∈ data.codes, c.Accepted k)
    (hempty : w.ms.wasm = .empty) {used : UInt64} (hgas : w.gas = .infinite used)
    (hfit : used.toNat + data.codes.countP (·.pinned) * k.gasRegister.c.pinCodeCost.toNat <
      2 ^ 64) :
    ∃ w', k.initGenesis data w = (.ok (), w') ∧ SameGenesis d.store w'.ms.wasm := by
  obtain ⟨R, hR⟩ := hregistry
  -- the parameters and the codes
  have hparams : (writeStore fun s => { s with params := some data.params } : KeeperM ε Unit) w =
      (.ok (), { w with ms := { w.ms with wasm := { WasmStore.empty with
        params := some data.params } } }) := by
    rw [writeStore_ok_iff, hempty]
  obtain ⟨w₂, hcodes, hrestored⟩ := importCodes_runs (w := { w with ms := { w.ms with
    wasm := { WasmStore.empty with params := some data.params } } }) hvm haccepted h.codeIDs rfl rfl
    (fun _ => rfl) hgas hfit
  have himported : CodesImported { WasmStore.empty with params := some data.params } data.codes
    w₂.ms.wasm := hrestored.imported
  have hcodes₂ := h.codes_eq hd hrestored
  -- the contracts
  have hnone : w₂.ms.wasm.contracts = ∅ := congrArg (·.contracts) himported.rest
  obtain ⟨w₃, hcontracts, hall⟩ := importContracts_runs (w := w₂) hR hd.lengths hd.state
    (fun c hc => (h.contracts c).mp hc) h.addresses
    (fun id hid => by rw [WasmStore.getCodeInfo, hcodes₂]; exact hid)
      (himported.holdsRegistry k.codec)
    (fun key info hkey => by rw [hnone] at hkey; cases (show none = some info from hkey))
    (congrArg (·.contractState) himported.rest)
  have hR₃ : HoldsRegistry w₃.ms.wasm R := h.registrationsOf_eq hR ▸ hall.registry
  -- the sequences
  have hsequences₃ : w₃.ms.wasm.sequences = ∅ :=
    (congrArg (·.sequences) hall.rest).trans (congrArg (·.sequences) himported.rest)
  obtain ⟨w₄, hsequences, hseqs⟩ := importSequences_runs (w := w₃) h.nodup_idKeys
    (fun seq hseq => by
      have hfour : ∀ t : Bytes, w₃.ms.wasm.has (0x04 :: t) = false := by
        intro t
        show (w₃.ms.wasm.sequences[(0x04 :: t : Bytes)]?.isSome ||
          w₃.ms.wasm.raw[(0x04 :: t : Bytes)]?.isSome) = false
        rw [hsequences₃, hR₃.raw]
        rfl
      rcases h.sequence_known hseq with hkey | hkey <;> rw [hkey] <;> exact hfour _)
  have honly := importSequences_only hsequences fun seq => h.sequence_known
  have hcodeID : w₄.ms.wasm.nextCodeID = d.store.nextCodeID :=
    hseqs.peek hsequences₃ h.nodup_idKeys (h.sequences.mem_iff.mpr List.mem_cons_self)
  have hinstanceID : w₄.ms.wasm.nextInstanceID = d.store.nextInstanceID :=
    hseqs.peek hsequences₃ h.nodup_idKeys
      (h.sequences.mem_iff.mpr (List.mem_cons_of_mem _ List.mem_cons_self))
  have hmax : Keeper.maxCodeID data.codes < w₄.ms.wasm.peekAutoIncrementID keySequenceCodeID := by
    refine maxCodeID_lt (n := w₄.ms.wasm.nextCodeID) (hcodeID ▸ hnumbered.pos) fun c hc => ?_
    rw [hcodeID]
    exact hnumbered.below _ (Option.isSome_of_eq_some ((h.codes c).mp hc).1)
  have hunused : w₄.ms.wasm.hasContractInfo (k.buildContractAddressClassic
      w₄.ms.wasm.nextInstanceID w₄.ms.wasm.nextInstanceID) = false := by
    rw [hinstanceID, WasmStore.hasContractInfo, honly.has (by simp [contractAddressKey,
      keySequenceCodeID]) (by simp [contractAddressKey, keySequenceInstanceID])]
    show w₃.ms.wasm.hasContractInfo _ = false
    rw [WasmStore.hasContractInfo_eq, hR₃.contracts, ← hR.contracts, hfree, hR₃.raw]
    rfl
  have hcheck := checkSequences_runs (k := k) hmax hunused
  refine ⟨w₄, GoM.bind_ok_iff.mpr ⟨(), w₃, GoM.bind_ok_iff.mpr ⟨(), _, hparams,
    GoM.bind_ok_iff.mpr ⟨(), w₂, hcodes, hcontracts⟩⟩,
      GoM.bind_ok_iff.mpr ⟨(), w₄, hsequences, hcheck⟩⟩,
    ?_, ?_, ?_, ?_, ?_, ?_, ?_, ?_, hcodeID, hinstanceID⟩
  · rw [h.params]
    exact (congrArg (·.params) honly.rest).trans ((congrArg (·.params) hall.rest).trans
      (congrArg (·.params) himported.rest))
  · exact (congrArg (·.codes) honly.rest).trans ((congrArg (·.codes) hall.rest).trans hcodes₂)
  · exact (congrArg (·.contracts) honly.rest).trans (contracts_eq hR hR₃ hd.contractKeys hall.keys)
  · exact (congrArg (·.contractState) honly.rest).trans (h.contractState_eq hd hall)
  · exact (congrArg (·.history) honly.rest).trans (hR₃.histories.logs.unique hR.histories.logs)
  · exact (congrArg (·.codeIndex) honly.rest).trans (hR₃.codeIndex.unique hR.codeIndex)
  · exact (congrArg (·.creatorIndex) honly.rest).trans (hR₃.creatorIndex.unique hR.creatorIndex)
  · exact (congrArg (·.pinned) honly.rest).trans ((congrArg (·.pinned) hall.rest).trans
      (h.pinned_eq hd hrestored))

end Describes

end Wasmd
