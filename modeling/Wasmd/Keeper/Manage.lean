import Wasmd.Keeper.Entry
import Wasmd.Types.Messages

/-!
# Managing codes and contracts

The functions of `keeper.go` that change the registry: `create`, `instantiate`, `migrate`, the
setters, and pinning.  An operation that hands the response of a contract on is a script; the part
before that is a function of its own (`newInstance`, `migrateContract`).

* `AddressGenerator` — classic and predictable addresses (`addresses.go`).
* `WasmStore.registerContract`, `WasmStore.registerMigration` — what `instantiate` and `migrate`
  write.
-/

namespace Wasmd

open ByteStore Effects Gas

variable {ε C : Type}

/-- `hex.EncodeToString`. -/
def hexEncode (bz : Bytes) : String :=
  String.ofList (bz.flatMap fun b => [Nat.digitChar (b.toNat / 16), Nat.digitChar (b.toNat % 16)])

/-! ## Addresses -/

/-- `UInt64LengthPrefix`. -/
def uint64LengthPrefix (bz : Bytes) : Bytes := uint64ToBigEndian (UInt64.ofNat bz.length) ++ bz

/-- `AddressGenerator`. -/
inductive AddressGenerator where
  /-- `ClassicAddressGenerator`. -/
  | classic
  /-- `PredictableAddressGenerator`. -/
  | predictable (creator : AccAddress) (salt msg : Bytes) (fixMsg : Bool)

/-- `mustAutoIncrementID`. -/
def mustAutoIncrementID (sequenceKey : Bytes) : KeeperM ε UInt64 := do
  let (id, _) ← readStore (·.autoIncrementID sequenceKey)
  writeStore fun s => (s.autoIncrementID sequenceKey).2
  return id

/-- `GetParams`. -/
def getParams : KeeperM ε Params := do
  let params ← readStore (·.params)
  GoM.ofOptionPanic params (.message "collections: not found")

namespace WasmStore

variable (s : WasmStore)

/-- What `instantiate` writes. -/
def registerContract (creator contractAddress : AccAddress) (info : ContractInfo)
    (historyEntry : ContractCodeHistoryEntry) : WasmStore :=
  (((s.addToContractCodeSecondaryIndex contractAddress historyEntry)
    |>.addToContractCreatorSecondaryIndex creator historyEntry.updated contractAddress)
    |>.appendToContractHistory contractAddress [historyEntry])
    |>.storeContractInfo contractAddress info

/-- What `migrate` writes. -/
def registerMigration (contractAddress : AccAddress) (info : ContractInfo)
    (last historyEntry : ContractCodeHistoryEntry) : WasmStore :=
  (((s.removeFromContractCodeSecondaryIndex contractAddress last)
    |>.appendToContractHistory contractAddress [historyEntry])
    |>.addToContractCodeSecondaryIndex contractAddress historyEntry)
    |>.storeContractInfo contractAddress info

/-- `collectPinnedChecksums`. -/
def collectPinnedChecksums (excludeCodeID : Option UInt64) : Except GoError (List Bytes) :=
  (s.pinnedCodes.filter fun id => some id ≠ excludeCodeID).mapM fun id =>
    match s.getCodeInfo id with
    | some info => .ok info.codeHash
    | none => .error (errNoSuchCodeFn id)

end WasmStore

namespace Keeper

variable (k : Keeper ε C)

/-- `BuildContractAddressClassic`. -/
def buildContractAddressClassic (codeID instanceID : UInt64) : AccAddress :=
  k.moduleAddress (uint64ToBigEndian codeID ++ uint64ToBigEndian instanceID)

/-- `BuildContractAddressPredictable`. -/
def buildContractAddressPredictable (checksum : Bytes) (creator : AccAddress)
    (salt initMsg : Bytes) : Except Panic AccAddress :=
  if checksum.length ≠ 32 then .error (.message "invalid checksum")
  else
    match validateSalt salt with
    | .error e => .error (.message s!"salt: {e.text}")
    | .ok () =>
      if initMsg.length ≠ 0 ∧ ¬ k.jsonValid initMsg then .error (.message "initMsg: invalid")
      else .ok (k.moduleAddress (uint64LengthPrefix checksum ++ uint64LengthPrefix creator.bytes ++
        uint64LengthPrefix salt ++ uint64LengthPrefix initMsg))

/-- The address a generator gives. -/
def generateAddress (codeID : UInt64) (checksum : Bytes) : AddressGenerator → KeeperM ε AccAddress
  | .classic => do
    let instanceID ← mustAutoIncrementID keySequenceInstanceID
    return k.buildContractAddressClassic codeID instanceID
  | .predictable creator salt msg fixMsg =>
    orPanic (k.buildContractAddressPredictable checksum creator salt (if fixMsg then msg else []))

/-! ## Codes -/

/-- The bytecode, unpacked and paid for if it is an archive. -/
def unpackCode (wasmCode : Bytes) : KeeperM ε Bytes :=
  if isGzip wasmCode then do
    let cost ← orPanic (k.gasRegister.uncompressCosts wasmCode.length)
    consumeGas cost "Uncompress gzip bytecode"
    match k.uncompress wasmCode maxWasmSize with
    | .ok code => return code
    | .error err =>
      GoM.failWith
        (errCreateFailed.wrap (GoError.wrapped "uncompress wasm archive" (.foreign err)).text)
  else pure wasmCode

/-- The VM writes the file of a code. -/
def writeCodeFile (wasmCode : Bytes) : KeeperM ε Unit :=
  GoM.modify fun w => { w with shared := { w.shared with vm := { w.shared.vm with
    codes := w.shared.vm.codes.insert (k.wasmVM.checksum wasmCode) wasmCode } } }

/-- `wasmVM.StoreCode`, or `SimulateStoreCode`, which writes no file. -/
def storeByteCode (ctx : SdkContext) (wasmCode : Bytes) : KeeperM ε Bytes := do
  let gasLeft ← onMeter fun m => (runtimeGasForContract k.gasRegister m, m)
  let (gasUsed, verdict) := k.wasmVM.compile wasmCode gasLeft
  (if ctx.simulate = false ∧ verdict.toBool then k.writeCodeFile wasmCode else pure ())
  onMeter fun m => consumeRuntimeGas k.gasRegister m gasUsed
  orError (verdict.mapError errCreateFailed.wrap)
  return k.wasmVM.checksum wasmCode

/-- `AnalyzeCode` with its error wrapped. -/
def analyzeCode (failed : Registered) (checksum : Bytes) : KeeperM ε AnalysisReport :=
  orError ((k.wasmVM.analyze checksum).mapError failed.wrap)

/-- `create`. -/
def create (ctx : SdkContext) (creator : Option AccAddress) (wasmCode : Bytes)
    (instantiateAccess : Option AccessConfig) (authZ : AuthorizationPolicy) :
    KeeperM ε (UInt64 × Bytes) := do
  let creator ← GoM.ofOption creator (errInvalidAddress.wrap "cannot be nil")
  let params ← getParams
  let defaultAccessConfig ←
    orPanic (params.instantiateDefaultPermission.withAddrs k.codec [creator])
  let instantiateAccess := instantiateAccess.getD defaultAccessConfig
  let allowed ← orPanic (authZ.canCreateCode k.codec ⟨params.codeUploadAccess, defaultAccessConfig⟩
    creator instantiateAccess)
  GoM.ensure (allowed = true) (errUnauthorized.wrap "can not create code")
  let wasmCode ← k.unpackCode wasmCode
  let checksum ← k.storeByteCode ctx wasmCode
  let requiredCapabilities ← (if ctx.simulate then pure "" else do
    let report ← k.analyzeCode errCreateFailed checksum
    pure report.requiredCapabilities)
  let codeID ← mustAutoIncrementID keySequenceCodeID
  writeStore fun s =>
    s.storeCodeInfo codeID (newCodeInfo k.codec checksum creator instantiateAccess)
  emitEvents [⟨"store_code", ⟨"code_checksum", hexEncode checksum⟩ ::
    ⟨"code_id", toString codeID.toNat⟩ :: (requiredCapabilities.splitOn ",").map fun f =>
      ⟨"required_capability", k.trimSpace f⟩⟩]
  return (codeID, checksum)

/-- `setAccessConfig`. -/
def setAccessConfig (codeID : UInt64) (caller : AccAddress) (newConfig : AccessConfig)
    (authz : AuthorizationPolicy) : KeeperM ε Unit := do
  let info ← readStore (·.getCodeInfo codeID)
  let info ← GoM.ofOption info (errNoSuchCodeFn codeID)
  let params ← getParams
  let isSubset := newConfig.permission.isSubset params.instantiateDefaultPermission
  let creator ← orPanic ((k.codec.accAddressFromBech32 info.creator).mapError .message)
  GoM.ensure (authz.canModifyCodeAccessConfig creator caller isSubset = true)
    (errUnauthorized.wrap "can not modify code access config")
  writeStore (·.storeCodeInfo codeID { info with instantiateConfig := newConfig })
  emitEvents [⟨"update_code_access_config", ⟨"code_permission", newConfig.permission.string⟩ ::
    ⟨"code_id", toString codeID.toNat⟩ ::
    if newConfig.allAuthorizedAddresses = [] then []
    else [⟨"authorized_addresses", ",".intercalate newConfig.allAuthorizedAddresses⟩]⟩]

/-! ## Instantiating -/

/-- The part of `instantiate` that makes sure of the account of the new contract. -/
def claimAccount (contractAddress : AccAddress) : KeeperM ε Unit := do
  match ← onExt (k.getAccount contractAddress) with
  | none => onExt (k.setNewAccount contractAddress)
  | some existingAcct => do
    GoM.ensure (existingAcct.sequence = 0 ∧ existingAcct.pubKey = none)
      (errAccountExists.wrap "address is claimed by external account")
    if existingAcct.type ∈ k.acceptedAccountTypes then pure ()
    else do
      onExt (k.setNewAccount contractAddress)
      let handled ← GoM.mapError (.wrapped "prune balance")
        (onExt (k.cleanupExistingAccount existingAcct))
      GoM.ensure (handled = true) (errAccountExists.wrap "address is claimed by external account")

/-- What `instantiate` does between the charge and the run: permission, address, account and
deposit. -/
def claimAddress (codeID : UInt64) (codeInfo : CodeInfo) (creator : AccAddress)
    (deposit : Coins.CoinSet) (addressGenerator : AddressGenerator)
    (authPolicy : AuthorizationPolicy) : KeeperM ε AccAddress := do
  let allowed ← orPanic
    (authPolicy.canInstantiateContract k.codec codeInfo.instantiateConfig creator)
  GoM.ensure (allowed = true) (errUnauthorized.wrap "can not instantiate")
  let contractAddress ← k.generateAddress codeID codeInfo.codeHash addressGenerator
  let existing ← readStore (·.hasContractInfo contractAddress)
  GoM.ensure (existing = false) (errDuplicate.wrap
    "contract address already exists, try a different combination of creator, checksum and salt")
  k.claimAccount contractAddress
  k.transferFunds creator contractAddress deposit
  return contractAddress

/-- The part of `instantiate` before the response is handled. -/
def newInstance (ctx : SdkContext) (codeID : UInt64) (creator admin : Option AccAddress)
    (initMsg : Bytes) (label : String) (deposit : Coins.CoinSet)
    (addressGenerator : AddressGenerator) (authPolicy : AuthorizationPolicy) :
    KeeperM ε (AccAddress × ContractInfo × ContractResponse C) := do
  let creator ← GoM.ofOption creator (errEmpty.wrap "creator")
  let codeInfo ← readStore (·.getCodeInfo codeID)
  let codeInfo ← GoM.ofOption codeInfo (errNoSuchCodeFn codeID)
  let (contractAddress, out) ← k.callContract ctx codeID codeInfo.codeHash
    (.instantiate creator deposit initMsg)
    (k.claimAddress codeID codeInfo creator deposit addressGenerator authPolicy)
  let res ← contractResult errVMError errInstantiateFailed out
  let createdAt ← orPanic (newAbsoluteTxPosition ctx)
  let report ← k.analyzeCode errVMError codeInfo.codeHash
  let contractInfo :=
    { newContractInfo k.codec codeID creator admin label createdAt with
      ibcPortID := if report.hasIBCEntryPoints then portIDForContract k.codec contractAddress
        else ""
      ibc2PortID := portIDForContractV2 k.codec k.hrp contractAddress }
  writeStore (·.registerContract creator contractAddress contractInfo
    (contractInfo.initialHistory initMsg))
  emitEvents [⟨"instantiate", [⟨"_contract_address", k.codec.string contractAddress⟩,
    ⟨"code_id", toString codeID.toNat⟩]⟩]
  return (contractAddress, contractInfo, res)

/-- `instantiate`. -/
def instantiate (ctx : SdkContext) (codeID : UInt64) (creator admin : Option AccAddress)
    (initMsg : Bytes) (label : String) (deposit : Coins.CoinSet)
    (addressGenerator : AddressGenerator) (authPolicy : AuthorizationPolicy) :
    KeeperScript ε C (AccAddress × Option Bytes) :=
  .mark ⟨.instantiate, authPolicy⟩ do
    let (contractAddress, contractInfo, res) ←
      k.newInstance ctx codeID creator admin initMsg label deposit addressGenerator authPolicy
    let data ← k.handleContractResponse
      (ctx.withSubMsgAuthzPolicy (authPolicy.subMessageAuthorizationPolicy .instantiate))
      contractAddress .instantiate contractInfo.ibcPortID (.wrapped "dispatch") res res.data
    return (contractAddress, data)

/-! ## Migrating -/

/-- The checks of `callMigrateEntrypoint` on what the VM returned.  `res.Ok` is returned as it is,
so a result with neither a response nor an error text is a nil response. -/
def migrateResult :
    Except VMStop (Option (Except String (ContractResponse C))) →
      KeeperM ε (Option (ContractResponse C))
  | .error stop => GoM.failWith (errVMError.wrap stop.text)
  | .ok none => GoM.failWith (errVMError.wrap "internal wasmvm error")
  | .ok (some (.error err)) =>
    if err = "" then pure none
    else GoM.failWith (.deterministic (errMigrationFailed.wrap err))
  | .ok (some (.ok res)) => pure (some res)

/-- `callMigrateEntrypoint`. -/
def callMigrateEntrypoint (ctx : SdkContext) (contractAddress : AccAddress) (newChecksum : Bytes)
    (msg : Bytes) (newCodeID : UInt64) (senderAddress : AccAddress)
    (oldMigrateVersion : Option UInt64) : KeeperM ε (Option (ContractResponse C)) := do
  let (_, out) ← k.callContract ctx newCodeID newChecksum
    (.migrate msg senderAddress oldMigrateVersion) (pure contractAddress)
  migrateResult out

/-- The ports of a contract after a migration. -/
def migratedPorts (contractAddress : AccAddress) (report : AnalysisReport) (info : ContractInfo) :
    ContractInfo :=
  { info with
    ibcPortID :=
      if report.hasIBCEntryPoints ∧ info.ibcPortID = "" then
        portIDForContract k.codec contractAddress
      else info.ibcPortID
    ibc2PortID := portIDForContractV2 k.codec k.hrp contractAddress }

/-- The part of `migrate` before the response is handled.  The entry point is not called if both
codes have the same migrate version. -/
def migrateContract (ctx : SdkContext) (contractAddress caller : AccAddress) (newCodeID : UInt64)
    (msg : Bytes) (authZ : AuthorizationPolicy) :
    KeeperM ε (ContractInfo × Option (ContractResponse C)) := do
  let contractInfo ← readStore (·.getContractInfo contractAddress)
  let contractInfo ← GoM.ofOption contractInfo (errInvalidRequest.wrap "unknown contract")
  let admin ← orPanic (contractInfo.adminAddr k.codec)
  GoM.ensure (authZ.canModifyContract admin caller = true) (errUnauthorized.wrap "can not migrate")
  let newCodeInfo ← readStore (·.getCodeInfo newCodeID)
  let newCodeInfo ← GoM.ofOption newCodeInfo (errInvalidRequest.wrap "unknown code")
  let allowed ← orPanic (authZ.canInstantiateContract k.codec newCodeInfo.instantiateConfig caller)
  GoM.ensure (allowed = true) (errUnauthorized.wrap "to use new code")
  let report ← k.analyzeCode errVMError newCodeInfo.codeHash
  GoM.ensure (report.hasIBCEntryPoints = true ∨ contractInfo.ibcPortID = "")
    (errMigrationFailed.wrap "requires ibc callbacks")
  let contractInfo := k.migratedPorts contractAddress report contractInfo
  let oldCodeInfo ← readStore (·.getCodeInfo contractInfo.codeID)
  let oldCodeInfo ← GoM.ofOptionPanic oldCodeInfo nilPointer
  let oldReport ← k.analyzeCode errVMError oldCodeInfo.codeHash
  let response ←
    (if report.contractMigrateVersion = none ∨ oldReport.contractMigrateVersion = none ∨
        report.contractMigrateVersion ≠ oldReport.contractMigrateVersion then
      k.callMigrateEntrypoint ctx contractAddress newCodeInfo.codeHash msg newCodeID caller
        oldReport.contractMigrateVersion
    else pure none)
  let last ← readStore (·.lastContractHistoryEntry contractAddress)
  let last ← GoM.ofOptionPanic last
    (.message s!"no history for {k.codec.string contractAddress}")
  let position ← orPanic (newAbsoluteTxPosition ctx)
  let (contractInfo, historyEntry) := contractInfo.addMigration position newCodeID msg
  writeStore (·.registerMigration contractAddress contractInfo last historyEntry)
  emitEvents [⟨"migrate", [⟨"code_id", toString newCodeID.toNat⟩,
    ⟨"_contract_address", k.codec.string contractAddress⟩]⟩]
  return (contractInfo, response)

/-- `migrate`. -/
def migrate (ctx : SdkContext) (contractAddress caller : AccAddress) (newCodeID : UInt64)
    (msg : Bytes) (authZ : AuthorizationPolicy) : KeeperScript ε C (Option Bytes) :=
  .mark ⟨.migrate, authZ⟩ do
    let (contractInfo, response) ← k.migrateContract ctx contractAddress caller newCodeID msg authZ
    match response with
    | none => return none
    | some res =>
      k.handleContractResponse
        (ctx.withSubMsgAuthzPolicy (authZ.subMessageAuthorizationPolicy .migrateContract))
        contractAddress .migrate contractInfo.ibcPortID (.wrapped "dispatch") res res.data

/-! ## Settings of a contract -/

/-- A change of a contract that the policy allows its admin (`setContractAdmin`,
`setContractLabel`). -/
def modifyContract (contractAddress caller : AccAddress) (authZ : AuthorizationPolicy)
    (change : ContractInfo → ContractInfo) (event : Event) : KeeperM ε Unit := do
  let contractInfo ← readStore (·.getContractInfo contractAddress)
  let contractInfo ← GoM.ofOption contractInfo (errInvalidRequest.wrap "unknown contract")
  let admin ← orPanic (contractInfo.adminAddr k.codec)
  GoM.ensure (authZ.canModifyContract admin caller = true)
    (errUnauthorized.wrap "can not modify contract")
  writeStore (·.storeContractInfo contractAddress (change contractInfo))
  emitEvents [event]

/-- `setContractAdmin`. -/
def setContractAdmin (contractAddress caller : AccAddress) (newAdmin : Option AccAddress)
    (authZ : AuthorizationPolicy) : KeeperM ε Unit :=
  k.modifyContract contractAddress caller authZ
    (fun info => { info with admin := k.codec.stringOf newAdmin })
    ⟨"update_contract_admin", [⟨"_contract_address", k.codec.string contractAddress⟩,
      ⟨"new_admin_address", k.codec.stringOf newAdmin⟩]⟩

/-- `setContractLabel`. -/
def setContractLabel (contractAddress caller : AccAddress) (newLabel : String)
    (authZ : AuthorizationPolicy) : KeeperM ε Unit :=
  k.modifyContract contractAddress caller authZ (fun info => { info with label := newLabel })
    ⟨"update_contract_label", [⟨"_contract_address", k.codec.string contractAddress⟩,
      ⟨"new_label", newLabel⟩]⟩

/-- `setContractInfoExtension`; a nil extension clears the field. -/
def setContractInfoExtension (contractAddr : AccAddress) (ext : Option Bytes) :
    KeeperM ε Unit := do
  let info ← readStore (·.getContractInfo contractAddr)
  let info ← GoM.ofOption info (errNoSuchContractFn (k.codec.string contractAddr))
  let packed ← orError (ext.mapM k.packExtension)
  writeStore (·.storeContractInfo contractAddr { info with ext := packed })

/-! ## Pinning -/

/-- `wasmVM.SyncPinnedCodes`, with its error wrapped. -/
def syncCodes (failed : Registered) (checksums : List Bytes) : KeeperM ε Unit := fun w =>
  match k.wasmVM.pin w.shared.vm checksums with
  | .ok () => (.ok (), { w with
      shared := { w.shared with vm := { w.shared.vm with pinned := checksums } } })
  | .error err => (.error (.error (failed.wrap err)), w)

/-- The call of `pinCode` and `unpinCode`. -/
def syncPinnedCodes (checksums : List Bytes) : KeeperM ε Unit :=
  k.syncCodes errSyncPinnedCodesFailed checksums

/-- `pinCode`. -/
def pinCode (codeID : UInt64) : KeeperM ε Unit := do
  let codeInfo ← readStore (·.getCodeInfo codeID)
  let codeInfo ← GoM.ofOption codeInfo (errNoSuchCodeFn codeID)
  consumeGas k.gasRegister.c.pinCodeCost "Loading CosmWasm module: pin code"
  let collected ← readStore (·.collectPinnedChecksums none)
  let checksums ← orError collected
  k.syncPinnedCodes (checksums ++ [codeInfo.codeHash])
  writeStore fun s => { s with pinned := s.pinned.insert (pinnedCodeIndexPrefix codeID) () }
  emitEvents [⟨"pin_code", [⟨"code_id", toString codeID.toNat⟩]⟩]

/-- `unpinCode`. -/
def unpinCode (codeID : UInt64) : KeeperM ε Unit := do
  let codeInfo ← readStore (·.getCodeInfo codeID)
  let _ ← GoM.ofOption codeInfo (errNoSuchCodeFn codeID)
  consumeGas k.gasRegister.c.unpinCodeCost "Loading CosmWasm module: unpin code"
  let collected ← readStore (·.collectPinnedChecksums (some codeID))
  let checksums ← orError collected
  k.syncPinnedCodes checksums
  writeStore fun s => { s with pinned := s.pinned.erase (pinnedCodeIndexPrefix codeID) }
  emitEvents [⟨"unpin_code", [⟨"code_id", toString codeID.toNat⟩]⟩]

/-- `InitializePinnedCodes`, which collects the checksums in the same loop. -/
def initializePinnedCodes : KeeperM ε Unit := do
  let collected ← readStore (·.collectPinnedChecksums none)
  let checksums ← orError collected
  if checksums.length = 0 then pure () else k.syncCodes errPinContractFailed checksums

end Keeper

end Wasmd
