import Wasmd.Keeper.DispatchTree
import Wasmd.Keeper.Store
import Wasmd.Keeper.Vm

/-!
# Entry points of contracts

The functions of `keeper.go`, `relay.go` and `ibc2.go` that call into the VM.  They share a shape:
look up the contract, charge for setting it up, run it, and handle its response.

* `setup` — the charge of each entry point; the callbacks of IBC v2 have none.
* `prepare`, `enter` — the charge and whatever else an entry point does before the run, and the
  run.
* `handleContractResponse` — events and submessages of a response.
* `execute`, `sudoContract`, `reply`, `querySmart` and the callbacks of IBC.  An entry point that
  dispatches submessages is a `Script`.
-/

namespace Wasmd

open ByteStore Effects Gas

variable {ε C α ρ : Type}

/-- The operations of the keeper that ask an authorization policy. -/
inductive Operation where
  | create
  | instantiate
  | migrate
  | setContractAdmin
  | setContractLabel
  | setAccessConfig
  deriving DecidableEq, Repr

/-- An operation and the policy it runs under. -/
structure Guarded where
  operation : Operation
  policy : AuthorizationPolicy

/-- What an entry point or a message does. -/
abbrev KeeperScript (ε C α : Type) := Script (Multistore ε) Shared SdkContext C Guarded α

/-- A call into the VM. -/
inductive VMEntry where
  /-- One that answers with a contract response. -/
  | respond (input : VMInput)
  | query (req : Bytes)
  | ibcChannelOpen (msg : IBCMsg)

def VMEntry.entryPoint : VMEntry → EntryPoint
  | respond input => input.entryPoint
  | query _ => .query
  | ibcChannelOpen _ => .ibcChannelOpen

/-! ## Events of a response -/

/-- `contractSDKEventAttributes`. -/
def contractSDKEventAttributes (trimSpace : String → String) (contractAddr : String)
    (customAttributes : List Attribute) : Except GoError (List Attribute) := do
  let attrs ← customAttributes.mapM fun l =>
    let key := trimSpace l.key
    if key.utf8ByteSize = 0 then
      .error (errInvalidEvent.wrap s!"Empty attribute key. Value: {l.value}")
    else if key.startsWith "_" then
      .error (errInvalidEvent.wrap s!"Attribute key starts with reserved prefix _: '{key}'")
    else .ok ⟨key, trimSpace l.value⟩
  return ⟨"_contract_address", contractAddr⟩ :: attrs

/-- `newWasmModuleEvent`. -/
def newWasmModuleEvent (trimSpace : String → String) (contractAddr : String)
    (customAttributes : List Attribute) : Except GoError (List Event) := do
  let attrs ← contractSDKEventAttributes trimSpace contractAddr customAttributes
  return [⟨"wasm", attrs⟩]

/-- `newCustomEvents`. -/
def newCustomEvents (trimSpace : String → String) (contractAddr : String) (evts : List Event) :
    Except GoError (List Event) :=
  evts.mapM fun e =>
    let type := trimSpace e.type
    if type.utf8ByteSize ≤ 2 then
      .error (errInvalidEvent.wrap s!"Event type too short: '{type}'")
    else do
      let attributes ← contractSDKEventAttributes trimSpace contractAddr e.attributes
      return ⟨"wasm-" ++ type, attributes⟩

/-! ## Depths -/

/-- `checkAndIncreaseCallDepth`. -/
def checkAndIncreaseCallDepth (ctx : SdkContext) (maxCallDepth : UInt32) :
    Except GoError SdkContext :=
  let callDepth := ctx.callDepth.getD 0 + 1
  if maxCallDepth < callDepth then .error (.registered errExceedMaxCallDepth)
  else .ok { ctx with callDepth := some callDepth }

/-- `checkAndIncreaseQueryStackSize`. -/
def checkAndIncreaseQueryStackSize (ctx : SdkContext) (maxQueryStackSize : UInt32) :
    Except GoError SdkContext :=
  let queryStackSize := ctx.queryStackSize.getD 0 + 1
  if maxQueryStackSize < queryStackSize then .error (.registered errExceedMaxQueryStackSize)
  else .ok { ctx with queryStackSize := some queryStackSize }

/-! ## Setting a contract up -/

/-- `contractInstance`. -/
def contractInstance (codec : AddressCodec) (contractAddress : AccAddress) :
    KeeperM ε (ContractInfo × CodeInfo) := do
  let contractInfo ← readStore (·.getContractInfo contractAddress)
  let contractInfo ← GoM.ofOption contractInfo (errNoSuchContractFn (codec.string contractAddress))
  let codeInfo ← readStore (·.getCodeInfo contractInfo.codeID)
  let codeInfo ← GoM.ofOption codeInfo (errNoSuchCodeFn contractInfo.codeID)
  return (contractInfo, codeInfo)

/-- The decision of `checkDiscountEligibility`. -/
def discounted (checksum : Bytes) (isPinned : Bool) (txContracts : Option (List Bytes)) : Bool :=
  isPinned || txContracts.any (checksum ∈ ·)

/-- What `checkDiscountEligibility` remembers: the map of the transaction is changed in place, and
an empty checksum is not added. -/
def seenContracts (checksum : Bytes) (isPinned : Bool) :
    Option (List Bytes) → Option (List Bytes)
  | none => none
  | some seen =>
    if isPinned ∨ checksum ∈ seen ∨ checksum = [] then some seen else some (checksum :: seen)

/-- `checkDiscountEligibility`. -/
def checkDiscountEligibility (checksum : Bytes) (isPinned : Bool) : KeeperM ε Bool := fun w =>
  (.ok (discounted checksum isPinned w.shared.txContracts),
    { w with
      shared :=
        { w.shared with txContracts := seenContracts checksum isPinned w.shared.txContracts } })

namespace Keeper

variable (k : Keeper ε C)

/-- The statements most entry points start with: the discount, `SetupContractCost` and the
charge. -/
def loadModule (name : String) (codeID : UInt64) (checksum : Bytes) (msgLen : Int) :
    KeeperM ε Unit := do
  let isPinned ← readStore (·.isPinnedCode codeID)
  let discount ← checkDiscountEligibility checksum isPinned
  let setupCost ← orPanic (k.gasRegister.setupContractCost discount msgLen)
  consumeGas setupCost s!"Loading CosmWasm module: {name}"

/-- A reply counts as discounted. -/
def loadReply (reply : Reply) : KeeperM ε Unit := do
  let replyCosts ← orPanic (k.gasRegister.replyCosts true reply)
  consumeGas replyCosts "Loading CosmWasm module: reply"

/-- What each entry point charges before it calls the VM. -/
def setup (codeID : UInt64) (checksum : Bytes) : VMEntry → KeeperM ε Unit
  | .query req => k.loadModule "query" codeID checksum req.length
  | .ibcChannelOpen msg => k.loadModule "ibc-open-channel" codeID checksum msg.expectedJSONSize
  | .respond input =>
    match input with
    | .instantiate _ _ msg => k.loadModule "instantiate" codeID checksum msg.length
    | .execute _ _ msg => k.loadModule "execute" codeID checksum msg.length
    | .migrate msg _ _ => k.loadModule "migrate" codeID checksum msg.length
    | .sudo msg => k.loadModule "sudo" codeID checksum msg.length
    | .reply reply => k.loadReply reply
    | .ibcChannelConnect msg =>
      k.loadModule "ibc-connect-channel" codeID checksum msg.expectedJSONSize
    | .ibcChannelClose msg => k.loadModule "ibc-close-channel" codeID checksum msg.expectedJSONSize
    | .ibcPacketReceive msg => k.loadModule "ibc-recv-packet" codeID checksum msg.expectedJSONSize
    | .ibcPacketAck msg => k.loadModule "ibc-ack-packet" codeID checksum msg.expectedJSONSize
    | .ibcPacketTimeout msg =>
      k.loadModule "ibc-timeout-packet" codeID checksum msg.expectedJSONSize
    | .ibcSourceCallback msg =>
      k.loadModule "ibc-source-chain-callback" codeID checksum msg.expectedJSONSize
    | .ibcDestinationCallback msg =>
      k.loadModule "ibc-destination-chain-callback" codeID checksum msg.expectedJSONSize
    -- `ibc2.go` goes on with the environment right away
    | .ibc2PacketAck _ | .ibc2PacketReceive _ | .ibc2PacketTimeout _ | .ibc2PacketSend _ => pure ()

/-- What the VM runs a contract with. -/
def vmEnv (ctx : SdkContext) (contract : AccAddress) : VMEnv ε :=
  ⟨k.gasRegister, k.storageGas, k.storagePanic, k.handleQuery ctx contract, contract⟩

/-- What happens before the VM is called: the charge, whatever comes `between`, and the checks of
the environment. -/
def prepare (ctx : SdkContext) (codeID : UInt64) (checksum : Bytes) (entry : VMEntry)
    (between : KeeperM ε AccAddress) : KeeperM ε AccAddress := do
  k.setup codeID checksum entry
  let contract ← between
  orPanic (newEnv ctx)
  return contract

/-- The preparation and the run of the contract. -/
def enter (ctx : SdkContext) (codeID : UInt64) (checksum : Bytes) (entry : VMEntry)
    (between : KeeperM ε AccAddress) (run : AccAddress → ContractRun ρ) :
    KeeperM ε (AccAddress × Except VMStop ρ) := do
  let contract ← k.prepare ctx codeID checksum entry between
  let res ← (k.vmEnv ctx contract).call entry.entryPoint.vmMeter (run contract)
  return (contract, res)

/-- `enter` for a contract that answers with a response. -/
def callContract (ctx : SdkContext) (codeID : UInt64) (checksum : Bytes) (input : VMInput)
    (between : KeeperM ε AccAddress) :
    KeeperM ε (AccAddress × Except VMStop (Option (Except String (ContractResponse C)))) :=
  k.enter ctx codeID checksum (.respond input) between fun contract =>
    k.wasmVM.call ctx checksum contract input

end Keeper

/-- The checks on what the VM returned.  `keeper.go` reports a failure of the VM as `ErrVMError`,
`relay.go` and `ibc2.go` as `ErrExecuteFailed`.  A result with neither a response nor an error text
is a nil pointer that gets dereferenced. -/
def contractResult (vmFailed failed : Registered) :
    Except VMStop (Option (Except String (ContractResponse C))) → KeeperM ε (ContractResponse C)
  | .error stop => GoM.failWith (vmFailed.wrap stop.text)
  | .ok none => GoM.failWith (errVMError.wrap "internal wasmvm error")
  | .ok (some (.error err)) =>
    if err = "" then GoM.raise nilPointer
    else GoM.failWith (.deterministic (failed.wrap err))
  | .ok (some (.ok res)) => pure res

namespace Keeper

variable (k : Keeper ε C)

/-- An event with the address of a contract. -/
def contractEvent (type : String) (contractAddress : AccAddress) : Event :=
  ⟨type, [⟨"_contract_address", k.codec.string contractAddress⟩]⟩

/-! ## Handling a response -/

/-- The part of `handleContractResponse` before the submessages: the charge for the events, the
events, and the context for the submessages. -/
def emitResponse (ctx : SdkContext) (contractAddr : AccAddress) (attrs : List Attribute)
    (evts : List Event) : KeeperM ε SdkContext := do
  let attributeGasCost ← orPanic (k.gasRegister.eventCosts attrs evts)
  consumeGas attributeGasCost "Custom contract event attributes"
  let wasmEvents ← orError
    (if attrs ≠ [] then newWasmModuleEvent k.trimSpace (k.codec.string contractAddr) attrs
      else .ok [])
  emitEvents wasmEvents
  let customEvents ← orError (newCustomEvents k.trimSpace (k.codec.string contractAddr) evts)
  emitEvents customEvents
  orError (checkAndIncreaseCallDepth ctx k.maxCallDepth)

/-- `handleContractResponse`; `wrap` is what the caller does to its error, and `entry` the entry
point that returned the response. -/
def handleContractResponse (ctx : SdkContext) (contractAddr : AccAddress) (entry : EntryPoint)
    (ibcPort : String) (wrap : GoError → GoError) (res : ContractResponse C) (data : Option Bytes) :
    KeeperScript ε C (Option Bytes) := do
  let ctx' ← GoM.mapError wrap (k.emitResponse ctx contractAddr res.attributes res.events)
  .respond wrap ⟨ctx', contractAddr, entry, ibcPort, res.messages, data⟩ .done

/-! ## The entry points of `keeper.go` -/

/-- A transfer of funds to a contract, if there are any. -/
def transferFunds (sender contractAddress : AccAddress) (coins : Coins.CoinSet) : KeeperM ε Unit :=
  if Coins.isZero coins then pure () else onExt (k.transferCoins sender contractAddress coins)

/-- The part of `execute` before the response is handled. -/
def runExecute (ctx : SdkContext) (contractAddress caller : AccAddress) (msg : Bytes)
    (coins : Coins.CoinSet) : KeeperM ε (ContractInfo × ContractResponse C) := do
  let (contractInfo, codeInfo) ← contractInstance k.codec contractAddress
  let (_, out) ← k.callContract ctx contractInfo.codeID codeInfo.codeHash
    (.execute caller coins msg) do
      k.transferFunds caller contractAddress coins
      return contractAddress
  let res ← contractResult errVMError errExecuteFailed out
  emitEvents [k.contractEvent "execute" contractAddress]
  return (contractInfo, res)

/-- `execute`. -/
def execute (ctx : SdkContext) (contractAddress caller : AccAddress) (msg : Bytes)
    (coins : Coins.CoinSet) : KeeperScript ε C (Option Bytes) := do
  let (contractInfo, res) ← k.runExecute ctx contractAddress caller msg coins
  k.handleContractResponse ctx contractAddress .execute contractInfo.ibcPortID id res res.data

/-- A call of a stored contract with nothing between the charge and the run. -/
def runContract (ctx : SdkContext) (contractAddress : AccAddress) (input : VMInput)
    (vmFailed : Registered) : KeeperM ε (ContractInfo × ContractResponse C) := do
  let (contractInfo, codeInfo) ← contractInstance k.codec contractAddress
  let (_, out) ← k.callContract ctx contractInfo.codeID codeInfo.codeHash input
    (pure contractAddress)
  let res ← contractResult vmFailed errExecuteFailed out
  return (contractInfo, res)

/-- `Sudo`. -/
def sudoContract (ctx : SdkContext) (contractAddress : AccAddress) (msg : Bytes) :
    KeeperScript ε C (Option Bytes) := do
  let (contractInfo, res) ← k.runContract ctx contractAddress (.sudo msg) errVMError
  let _ ← (emitEvents [k.contractEvent "sudo" contractAddress] : KeeperM ε Unit)
  k.handleContractResponse ctx contractAddress .sudo contractInfo.ibcPortID
    (.wrapped "dispatch") res res.data

/-- `reply`. -/
def reply (ctx : SdkContext) (contractAddress : AccAddress) (reply : Reply) :
    KeeperScript ε C (Option Bytes) := do
  let (contractInfo, res) ← k.runContract ctx contractAddress (.reply reply) errVMError
  let _ ← (emitEvents [k.contractEvent "reply" contractAddress] : KeeperM ε Unit)
  k.handleContractResponse ctx contractAddress .reply contractInfo.ibcPortID (.wrapped "dispatch")
    res res.data

/-- `QuerySmart`. -/
def querySmart (ctx : SdkContext) (contractAddr : AccAddress) (req : Bytes) : KeeperM ε Bytes := do
  let ctx ← orError (checkAndIncreaseQueryStackSize ctx k.maxQueryStackSize)
  let (contractInfo, codeInfo) ← contractInstance k.codec contractAddr
  let (_, out) ← k.enter ctx contractInfo.codeID codeInfo.codeHash (.query req) (pure contractAddr)
    fun contract => k.wasmVM.query ctx codeInfo.codeHash contract req
  match out with
  | .error stop => GoM.failWith (errVMError.wrap stop.text)
  | .ok (.error err) =>
    if err = "" then return [] else GoM.failWith (.deterministic (errQueryFailed.wrap err))
  | .ok (.ok bz) => return bz

/-! ## The callbacks of IBC -/

/-- `OnOpenChannel`. -/
def onOpenChannel (ctx : SdkContext) (contractAddr : AccAddress) (msg : IBCMsg) :
    KeeperM ε String := do
  let (contractInfo, codeInfo) ← contractInstance k.codec contractAddr
  let (_, out) ← k.enter ctx contractInfo.codeID codeInfo.codeHash (.ibcChannelOpen msg)
    (pure contractAddr) fun contract => k.wasmVM.ibcChannelOpen ctx codeInfo.codeHash contract msg
  match out with
  | .error stop => GoM.failWith (errExecuteFailed.wrap stop.text)
  | .ok none => GoM.failWith (errVMError.wrap "internal wasmvm error")
  | .ok (some (.error err)) =>
    if err = "" then return "" else GoM.failWith (.deterministic (errExecuteFailed.wrap err))
  -- a nil response accepts the version of the channel
  | .ok (some (.ok version)) => return version.getD ""

/-- A callback whose response carries no data (`handleIBCBasicContractResponse`); `port` selects
the port its messages are sent from. -/
def basicCallback (port : ContractInfo → String) (input : VMInput) (ctx : SdkContext)
    (contractAddr : AccAddress) : KeeperScript ε C Unit := do
  let (contractInfo, res) ← k.runContract ctx contractAddr input errExecuteFailed
  let _ ← k.handleContractResponse ctx contractAddr input.entryPoint (port contractInfo) id res none
  return ()

/-- `OnConnectChannel`. -/
def onConnectChannel (ctx : SdkContext) (contractAddr : AccAddress) (msg : IBCMsg) :
    KeeperScript ε C Unit :=
  k.basicCallback (·.ibcPortID) (.ibcChannelConnect msg) ctx contractAddr

/-- `OnCloseChannel`. -/
def onCloseChannel (ctx : SdkContext) (contractAddr : AccAddress) (msg : IBCMsg) :
    KeeperScript ε C Unit :=
  k.basicCallback (·.ibcPortID) (.ibcChannelClose msg) ctx contractAddr

/-- `OnAckPacket`. -/
def onAckPacket (ctx : SdkContext) (contractAddr : AccAddress) (msg : IBCMsg) :
    KeeperScript ε C Unit :=
  k.basicCallback (·.ibcPortID) (.ibcPacketAck msg) ctx contractAddr

/-- `OnTimeoutPacket`. -/
def onTimeoutPacket (ctx : SdkContext) (contractAddr : AccAddress) (msg : IBCMsg) :
    KeeperScript ε C Unit :=
  k.basicCallback (·.ibcPortID) (.ibcPacketTimeout msg) ctx contractAddr

/-- `IBCSourceCallback`. -/
def ibcSourceCallback (ctx : SdkContext) (contractAddr : AccAddress) (msg : IBCMsg) :
    KeeperScript ε C Unit :=
  k.basicCallback (·.ibcPortID) (.ibcSourceCallback msg) ctx contractAddr

/-- `IBCDestinationCallback`. -/
def ibcDestinationCallback (ctx : SdkContext) (contractAddr : AccAddress) (msg : IBCMsg) :
    KeeperScript ε C Unit :=
  k.basicCallback (·.ibcPortID) (.ibcDestinationCallback msg) ctx contractAddr

/-- `OnAckIBC2Packet`. -/
def onAckIBC2Packet (ctx : SdkContext) (contractAddr : AccAddress) (msg : IBCMsg) :
    KeeperScript ε C Unit :=
  k.basicCallback (·.ibc2PortID) (.ibc2PacketAck msg) ctx contractAddr

/-- `OnTimeoutIBC2Packet`. -/
def onTimeoutIBC2Packet (ctx : SdkContext) (contractAddr : AccAddress) (msg : IBCMsg) :
    KeeperScript ε C Unit :=
  k.basicCallback (·.ibc2PortID) (.ibc2PacketTimeout msg) ctx contractAddr

/-- `OnSendIBC2Packet`. -/
def onSendIBC2Packet (ctx : SdkContext) (contractAddr : AccAddress) (msg : IBCMsg) :
    KeeperScript ε C Unit :=
  k.basicCallback (·.ibc2PortID) (.ibc2PacketSend msg) ctx contractAddr

/-! ## Received packets -/

/-- What `OnRecvPacket` returns beside the error. -/
inductive PacketAck where
  /-- Nil: the acknowledgement comes later. -/
  | later
  /-- An error acknowledgement with the text of the contract. -/
  | error (err : String)
  /-- `ContractConfirmStateAck`. -/
  | confirm (data : Bytes)
  deriving DecidableEq, Repr

/-- `StoreAsyncAckPacket`. -/
def storeAsyncAckPacket (packet : Packet) : KeeperM ε Unit :=
  writeStore (·.storeAsyncAckPacket packet)

/-- The run of a contract that receives a packet. -/
def runReceive (ctx : SdkContext) (contractAddr : AccAddress) (input : VMInput) :
    KeeperM ε (ContractInfo × Except String (ContractResponse C)) := do
  let (contractInfo, codeInfo) ← contractInstance k.codec contractAddr
  let (_, out) ← k.callContract ctx contractInfo.codeID codeInfo.codeHash input (pure contractAddr)
  match out with
  -- a failure of the VM aborts the whole receive
  | .error stop => GoM.raise (.message stop.text)
  | .ok none => GoM.failWith (errVMError.wrap "internal wasmvm error")
  | .ok (some (.error err)) =>
    if err = "" then GoM.raise nilPointer else return (contractInfo, .error err)
  | .ok (some (.ok res)) => return (contractInfo, .ok res)

/-- The run of a contract that receives a packet and does not refuse it. -/
def acceptPacket (ctx : SdkContext) (contractAddr : AccAddress) (input : VMInput) :
    KeeperM ε (ContractInfo × ContractResponse C) := do
  let (contractInfo, out) ← k.runReceive ctx contractAddr input
  match out with
  | .error err => GoM.failWith (.foreign err)
  | .ok res => return (contractInfo, res)

/-- `OnRecvPacket`. -/
def onRecvPacket (ctx : SdkContext) (contractAddr : AccAddress) (msg : IBCPacketReceiveMsg) :
    KeeperScript ε C PacketAck := do
  let (contractInfo, out) ← k.runReceive ctx contractAddr (.ibcPacketReceive msg)
  match out with
  | .error err => return .error err
  | .ok res => do
    let data ← k.handleContractResponse ctx contractAddr .ibcPacketReceive contractInfo.ibcPortID id
      res res.data
    match data with
    | none => do
      let _ ← (storeAsyncAckPacket (convertPacket msg.packet) : KeeperM ε Unit)
      return .later
    | some data => return .confirm data

/-- `channeltypesv2.RecvPacketResult`. -/
inductive RecvPacketResult where
  | success (acknowledgement : Bytes)
  | failure (acknowledgement : Bytes)
  | async
  deriving DecidableEq, Repr

/-- The part of `OnRecvIBC2Packet` whose errors it turns into results. -/
def receiveIBC2Packet (ctx : SdkContext) (contractAddr : AccAddress) (msg : IBCMsg) :
    KeeperScript ε C RecvPacketResult := do
  let (contractInfo, out) ← k.runReceive ctx contractAddr (.ibc2PacketReceive msg)
  match out with
  | .error err => return .failure (stringBytes err)
  | .ok res => do
    let data ← k.handleContractResponse ctx contractAddr .ibc2PacketReceive
      contractInfo.ibc2PortID id res res.data
    match data with
    | none => return .async
    | some data => return .success data

/-- `OnRecvIBC2Packet`. -/
def onRecvIBC2Packet (handler : Response SdkContext C → KeeperM ε (Option Bytes)) (ctx : SdkContext)
    (contractAddr : AccAddress) (msg : IBCMsg) : KeeperM ε RecvPacketResult := fun w =>
  match (k.receiveIBC2Packet ctx contractAddr msg).run handler w with
  | (.error (.error e), w') => (.ok (.failure (stringBytes e.text)), w')
  | other => other

end Keeper

end Wasmd
