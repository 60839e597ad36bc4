import Wasmd.Keeper.Manage
import Wasmd.Types.Genesis

/-!
# Import and export of the state

`InitGenesis` and `ExportGenesis` (`x/wasm/keeper/genesis.go`) with the functions of `keeper.go`
they are made of.

* `importCode`, `importContract`, `importAutoIncrementID` — one element of the genesis state each.
  The key of a sequence is taken as it is: `WasmStore.setBytes` writes bytes under any key.
* `initGenesis` — the parameters, then the three lists, then two checks of the sequences.
* `exportGenesis` — the state as the iterators show it.
-/

namespace Wasmd

open ByteStore Effects Gas

variable {ε C α : Type}

/-- Bytes as the text they are printed as. -/
def bytesText (bz : Bytes) : String := String.ofList (bz.map fun b => Char.ofNat b.toNat)

namespace WasmStore

variable (s : WasmStore)

/-! ## Iterators -/

/-- The codes in the order of `IterateCodeInfos`. -/
def codeInfos : List (UInt64 × CodeInfo) :=
  (KVStore.entries s.codes [0x01]).map fun kv => (bigEndianToUint64 kv.1, kv.2)

/-- The contracts in the order of `IterateContractInfo`. -/
def contractInfos : List (AccAddress × ContractInfo) :=
  (KVStore.entries s.contracts [0x02]).filterMap fun kv =>
    (AccAddress.ofBytes? kv.1).map fun addr => (addr, kv.2)

/-- The storage of a contract in the order of `IterateContractState`. -/
def contractModels (contractAddress : AccAddress) : List Model :=
  (KVStore.entries s.contractState (contractStorePrefix contractAddress)).map fun kv => ⟨kv.1, kv.2⟩

theorem mem_contractInfos {s : WasmStore} {a : AccAddress} {info : ContractInfo} :
    (a, info) ∈ s.contractInfos ↔ s.getContractInfo a = some info := by
  unfold contractInfos
  rw [List.mem_filterMap]
  constructor
  · rintro ⟨⟨key, info'⟩, hmem, hmap⟩
    obtain ⟨b, hb, heq⟩ := Option.map_eq_some_iff.mp hmap
    cases heq
    obtain rfl : key = a.bytes := AccAddress.eq_bytes_of_ofBytes? hb
    exact KVStore.mem_entries.mp hmem
  · intro h
    exact ⟨(a.bytes, info), KVStore.mem_entries.mpr h, by rw [AccAddress.ofBytes?_bytes]; rfl⟩

/-- Every contract is shown once. -/
theorem nodup_contractInfos : (s.contractInfos.map Prod.fst).Nodup := by
  refine List.pairwise_map.mpr ?_
  unfold contractInfos
  rw [List.pairwise_filterMap]
  refine (KVStore.pairwise_entries s.contracts [0x02]).imp ?_
  rintro ⟨key, info⟩ ⟨key', info'⟩ hlt x hx y hy heq
  obtain ⟨a, ha, rfl⟩ := Option.map_eq_some_iff.mp hx
  obtain ⟨b, hb, rfl⟩ := Option.map_eq_some_iff.mp hy
  obtain rfl : a = b := heq
  obtain rfl : key = a.bytes := AccAddress.eq_bytes_of_ofBytes? ha
  obtain rfl : key' = a.bytes := AccAddress.eq_bytes_of_ofBytes? hb
  simp at hlt

/-! ## Writing -/

/-- `Set` of plain bytes.  Where records are stored, the bytes are kept aside; the values of the
indices and of the pinned codes are not looked at. -/
def setBytes (key value : Bytes) : WasmStore :=
  match key with
  | 0x03 :: _ => { s with contractState := s.contractState.insert key value }
  | 0x04 :: _ => { s with sequences := s.sequences.insert key value }
  | 0x06 :: _ => { s with codeIndex := s.codeIndex.insert key () }
  | 0x07 :: _ => { s with pinned := s.pinned.insert key () }
  | 0x09 :: _ => { s with creatorIndex := s.creatorIndex.insert key () }
  | _ => { s with raw := s.raw.insert key value }

/-- What `importContract` writes before the storage. -/
def registerImport (creator contractAddr : AccAddress) (c : ContractInfo)
    (historyEntries : List ContractCodeHistoryEntry) (first last : ContractCodeHistoryEntry) :
    WasmStore :=
  (((s.appendToContractHistory contractAddr historyEntries)
    |>.storeContractInfo contractAddr c)
    |>.addToContractCodeSecondaryIndex contractAddr last)
    |>.addToContractCreatorSecondaryIndex creator first.updated contractAddr

end WasmStore

/-- A call on a branch of the store that is not written back (`ctx.CacheContext`). -/
def onBranch (x : KeeperM ε α) : KeeperM ε α := fun w => ((x w).1, w)

namespace Keeper

variable (k : Keeper ε C)

/-! ## Import -/

/-- `wasmVM.StoreCodeUnchecked`. -/
def storeCodeUnchecked (wasmCode : Bytes) : KeeperM ε Bytes := do
  orError ((k.wasmVM.compileUnchecked wasmCode).mapError errCreateFailed.wrap)
  k.writeCodeFile wasmCode
  return k.wasmVM.checksum wasmCode

/-- The bytecode, unpacked if it is an archive. -/
def unpackImport (wasmCode : Bytes) : Except GoError Bytes :=
  if isGzip wasmCode then
    (k.uncompress wasmCode (2 ^ 63 - 1)).mapError fun err =>
      errCreateFailed.wrap (GoError.wrapped "uncompress wasm archive" (.foreign err)).text
  else .ok wasmCode

/-- `importCode`. -/
def importCode (codeID : UInt64) (codeInfo : CodeInfo) (wasmCode : Bytes) : KeeperM ε Unit := do
  let wasmCode ← orError (k.unpackImport wasmCode)
  let newCodeHash ← k.storeCodeUnchecked wasmCode
  GoM.ensure (codeInfo.codeHash = newCodeHash) (errInvalid.wrap "code hashes not same")
  let found ← readStore (·.containsCodeInfo codeID)
  GoM.ensure (found = false) (errDuplicate.wrap s!"duplicate code: {codeID.toNat}")
  writeStore (·.storeCodeInfo codeID codeInfo)

/-- The body of the loop in `importContractState`. -/
def importModel (contractAddress : AccAddress) (model : Model) : KeeperM ε Unit := do
  let found ← readStore (·.has (contractStorePrefix contractAddress ++ model.key))
  GoM.ensure (found = false) (errDuplicate.wrap s!"duplicate key: {hexEncode model.key}")
  -- the prefix store does not take an empty key
  orPanic (if model.key = [] then .error (.message "key is nil") else .ok ())
  writeStore fun s => { s with
    contractState := s.contractState.insert (contractStorePrefix contractAddress ++ model.key)
      model.value }

/-- `importContractState`. -/
def importContractState (contractAddress : AccAddress) (models : List Model) : KeeperM ε Unit :=
  GoM.forEach models (importModel contractAddress)

/-- `importContract`. -/
def importContract (contractAddr : AccAddress) (c : ContractInfo) (state : List Model)
    (historyEntries : List ContractCodeHistoryEntry) : KeeperM ε Unit := do
  let stored ← readStore (·.containsCodeInfo c.codeID)
  GoM.ensure (stored = true) (errNoSuchCodeFn c.codeID)
  let found ← readStore (·.hasContractInfo contractAddr)
  GoM.ensure (found = false) (errDuplicate.wrap s!"contract: {k.codec.string contractAddr}")
  let first ← GoM.ofOption historyEntries.head? (errEmpty.wrap "contract history")
  let creatorAddress ← orError ((k.codec.accAddressFromBech32 c.creator).mapError .foreign)
  writeStore (·.registerImport creatorAddress contractAddr c historyEntries first
    (historyEntries.getLastD first))
  importContractState contractAddr state

/-- `importAutoIncrementID`. -/
def importAutoIncrementID (sequenceKey : Bytes) (val : UInt64) : KeeperM ε Unit := do
  let found ← readStore (·.has sequenceKey)
  GoM.ensure (found = false) (errDuplicate.wrap ("autoincrement id: " ++ bytesText sequenceKey))
  writeStore (·.setBytes sequenceKey (uint64ToBigEndian val))

/-- The loop of `InitGenesis` over the codes. -/
def importCodes (codes : List Code) : KeeperM ε Unit :=
  GoM.forEachFrom 0 codes fun i code => do
    GoM.mapError (.wrapped s!"code {i} with id: {code.codeID.toNat}")
      (k.importCode code.codeID code.codeInfo code.codeBytes)
    if code.pinned then
      GoM.mapError (.wrapped s!"contract number {i}") (k.pinCode code.codeID)
    else pure ()

/-- The loop of `InitGenesis` over the contracts. -/
def importContracts (contracts : List Contract) : KeeperM ε Unit :=
  GoM.forEachFrom 0 contracts fun i contract => do
    let contractAddr ← orError ((k.codec.accAddressFromBech32 contract.contractAddress).mapError
      fun err => .wrapped s!"address in contract number {i}" (.foreign err))
    GoM.mapError (.wrapped s!"contract number {i}")
      (k.importContract contractAddr contract.contractInfo contract.contractState
        contract.contractCodeHistory)

/-- The loop of `InitGenesis` over the sequences. -/
def importSequences (sequences : List Sequence) : KeeperM ε Unit :=
  GoM.forEachFrom 0 sequences fun i seq =>
    GoM.mapError (.wrapped s!"sequence number {i}") (importAutoIncrementID seq.idKey seq.value)

/-- The greatest id of a code. -/
def maxCodeID (codes : List Code) : UInt64 :=
  codes.foldl (fun greatest code => if greatest < code.codeID then code.codeID else greatest) 0

/-- The last part of `InitGenesis`: the values of the sequences. -/
def checkSequences (codes : List Code) : KeeperM ε Unit := do
  let seqVal ← readStore (·.peekAutoIncrementID keySequenceCodeID)
  GoM.ensure (maxCodeID codes < seqVal) (errInvalid.wrap ("seq " ++ bytesText keySequenceCodeID ++
    s!" with value: {seqVal.toNat} must be greater than: {(maxCodeID codes).toNat} "))
  let seqVal ← readStore (·.peekAutoIncrementID keySequenceInstanceID)
  -- the value of the sequence is given as the id of the code, too
  let addr ← onBranch (k.generateAddress seqVal [] .classic)
  let used ← readStore (·.hasContractInfo addr)
  GoM.ensure (used = false) (errInvalid.wrap (s!"value: {seqVal.toNat} for seq " ++
    bytesText keySequenceInstanceID ++ " was used already"))

/-- `InitGenesis` up to the sequences. -/
def importRecords (data : GenesisState) : KeeperM ε Unit := do
  writeStore fun s => { s with params := some data.params }
  k.importCodes data.codes
  k.importContracts data.contracts

/-- `InitGenesis`. -/
def initGenesis (data : GenesisState) : KeeperM ε Unit := do
  k.importRecords data
  importSequences data.sequences
  k.checkSequences data.codes

/-! ## Export -/

/-- `GetByteCode` of a code in the store. -/
def getByteCode (s : WasmStore) (vm : VMState) (codeID : UInt64) : Except String Bytes :=
  match s.getCodeInfo codeID with
  | none => .ok []
  | some codeInfo =>
    match vm.codes[codeInfo.codeHash]? with
    | some code => .ok code
    | none => .error "no such file"

/-- The codes in `ExportGenesis`. -/
def exportCodes (s : WasmStore) (vm : VMState) : Except Panic (List Code) :=
  s.codeInfos.mapM fun (codeID, info) => do
    let bytecode ← (getByteCode s vm codeID).mapError .message
    return ⟨codeID, info, bytecode, s.isPinnedCode codeID⟩

/-- The contracts in `ExportGenesis`. -/
def exportContracts (s : WasmStore) : List Contract :=
  s.contractInfos.map fun (addr, contract) =>
    ⟨k.codec.string addr, contract, s.contractModels addr, s.getContractHistory addr⟩

/-- The sequences in `ExportGenesis`. -/
def exportSequences (s : WasmStore) : List Sequence :=
  [keySequenceCodeID, keySequenceInstanceID].map fun key => ⟨key, s.peekAutoIncrementID key⟩

/-- `ExportGenesis`. -/
def exportGenesis (s : WasmStore) (vm : VMState) : Except Panic GenesisState := do
  let params ← match s.params with
    | some params => .ok params
    | none => .error (.message "collections: not found")
  let codes ← exportCodes s vm
  return ⟨params, codes, k.exportContracts s, exportSequences s⟩

end Keeper

end Wasmd
