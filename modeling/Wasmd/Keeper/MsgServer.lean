import Wasmd.Keeper.Manage

/-!
# The message server and the handlers of messages

Messages reach the keeper from transactions (`msg_server.go`) and from contracts, whose messages go
through a chain of handlers first (`handler_plugin.go`).

* `msgServer` — what a message of the module does, and the policy it runs under.
* `ForeignRun` — what another module does with a message, and its calls back into this one.
* `handleSdkMessage` — a message of a contract is validated, must be signed by the contract, and is
  routed.
* `dispatchIBC` — packets that a contract sends, and acknowledgements that it writes later.
* `Keeper.chain` — the handlers of messages and replies, as the trees of submessages need them.
-/

namespace Wasmd

open ByteStore Effects Gas

variable {ε C α : Type}

/-- A check as a step. -/
def attempt (x : Except GoError α) : KeeperScript ε C α := .lift (orError x)

/-- An operation that asks a policy and dispatches nothing. -/
def guarded (operation : Operation) (policy : AuthorizationPolicy) (x : KeeperM ε α) :
    KeeperScript ε C α :=
  .mark ⟨operation, policy⟩ (.lift x)

/-! ## The message server -/

/-- The responses of the message server. -/
inductive WasmMsgResponse where
  | empty
  | code (codeID : UInt64) (checksum : Bytes)
  | contract (address : String) (data : Option Bytes)
  | result (data : Option Bytes)
  | migratedCode (codeID : UInt64) (checksum : Bytes) (data : Option Bytes)
  deriving DecidableEq, Repr

/-- The loop of `AddCodeUploadParamsAddresses`. -/
def addAddresses (addresses new : List String) : List String :=
  new.foldl (fun acc a => if a ∈ acc then acc else acc ++ [a]) addresses

/-- The loop of `RemoveCodeUploadParamsAddresses`. -/
def removeAddresses (addresses removed : List String) : List String :=
  addresses.filter fun a => a ∉ removed

/-- `SetParams`. -/
def setParams (params : Params) : KeeperM ε Unit :=
  writeStore fun s => { s with params := some params }

/-- The common part of `AddCodeUploadParamsAddresses` and `RemoveCodeUploadParamsAddresses`. -/
def editUploadAddresses (edit : List String → List String) : KeeperM ε Unit := do
  let params ← getParams
  GoM.ensure (params.codeUploadAccess.permission = .anyOfAddresses) (errInvalid.wrap "permission")
  setParams { params with
    codeUploadAccess :=
      { params.codeUploadAccess with addresses := edit params.codeUploadAccess.addresses } }

namespace Keeper

variable (k : Keeper ε C)

/-- `sdk.ValidateAuthority(ctx, k.GetAuthority(), actor)`. -/
def validateAuthority (ctx : SdkContext) (actor : String) : Except GoError Unit :=
  k.sdkValidateAuthority ctx.consensusAuthority k.authority actor

/-- The actor is the authority in force on the context. -/
def IsAuthority (ctx : SdkContext) (actor : String) : Prop := k.validateAuthority ctx actor = .ok ()

/-- `selectAuthorizationPolicy`. -/
def selectAuthorizationPolicy (ctx : SdkContext) (actor : String) : AuthorizationPolicy :=
  match k.validateAuthority ctx actor with
  | .ok () => .gov k.propagateGovAuthorization
  | .error _ => ctx.subMsgAuthzPolicy.getD .default

/-- The message server. -/
def msgServer (lib : MsgLib) (ctx : SdkContext) (msg : WasmMsg) :
    KeeperScript ε C WasmMsgResponse :=
  match msg with
  | .storeCode sender code access => do
    attempt (msg.validateBasic lib k.codec)
    let senderAddr ← attempt (decodeAddress k.codec "sender" sender)
    let policy := k.selectAuthorizationPolicy ctx sender
    let (codeID, checksum) ← guarded .create policy
      (k.create ctx (some senderAddr) code access policy)
    return .code codeID checksum
  | .instantiateContract sender admin codeID label initMsg funds => do
    attempt (msg.validateBasic lib k.codec)
    let senderAddr ← attempt (decodeAddress k.codec "sender" sender)
    let adminAddr ← attempt (decodeOptional k.codec "admin" admin)
    let policy := k.selectAuthorizationPolicy ctx sender
    let (contractAddr, data) ←
      k.instantiate ctx codeID (some senderAddr) adminAddr initMsg label funds .classic policy
    return .contract (k.codec.string contractAddr) data
  | .instantiateContract2 sender admin codeID label initMsg funds salt fixMsg => do
    attempt (msg.validateBasic lib k.codec)
    let senderAddr ← attempt (decodeAddress k.codec "sender" sender)
    let adminAddr ← attempt (decodeOptional k.codec "admin" admin)
    let policy := k.selectAuthorizationPolicy ctx sender
    let (contractAddr, data) ← k.instantiate ctx codeID (some senderAddr) adminAddr initMsg label
      funds (.predictable senderAddr salt initMsg fixMsg) policy
    return .contract (k.codec.string contractAddr) data
  | .executeContract sender contract payload funds => do
    attempt (msg.validateBasic lib k.codec)
    let senderAddr ← attempt (decodeAddress k.codec "sender" sender)
    let contractAddr ← attempt (decodeAddress k.codec "contract" contract)
    let data ← k.execute ctx contractAddr senderAddr payload funds
    return .result data
  | .migrateContract sender contract codeID payload => do
    attempt (msg.validateBasic lib k.codec)
    let senderAddr ← attempt (decodeAddress k.codec "sender" sender)
    let contractAddr ← attempt (decodeAddress k.codec "contract" contract)
    let policy := k.selectAuthorizationPolicy ctx sender
    let data ← k.migrate ctx contractAddr senderAddr codeID payload policy
    return .result data
  | .updateAdmin sender newAdmin contract => do
    attempt (msg.validateBasic lib k.codec)
    let senderAddr ← attempt (decodeAddress k.codec "sender" sender)
    let contractAddr ← attempt (decodeAddress k.codec "contract" contract)
    let newAdminAddr ← attempt (decodeAddress k.codec "new admin" newAdmin)
    let policy := k.selectAuthorizationPolicy ctx sender
    guarded .setContractAdmin policy
      (k.setContractAdmin contractAddr senderAddr (some newAdminAddr) policy)
    return .empty
  | .clearAdmin sender contract => do
    attempt (msg.validateBasic lib k.codec)
    let senderAddr ← attempt (decodeAddress k.codec "sender" sender)
    let contractAddr ← attempt (decodeAddress k.codec "contract" contract)
    let policy := k.selectAuthorizationPolicy ctx sender
    guarded .setContractAdmin policy (k.setContractAdmin contractAddr senderAddr none policy)
    return .empty
  | .updateInstantiateConfig sender codeID access => do
    attempt (msg.validateBasic lib k.codec)
    let senderAddr ← attempt (decodeAddress k.codec "sender" sender)
    let policy := k.selectAuthorizationPolicy ctx sender
    let config ← Script.lift (GoM.ofOptionPanic access nilPointer)
    guarded .setAccessConfig policy (k.setAccessConfig codeID senderAddr config policy)
    return .empty
  | .updateParams authority params => do
    attempt (msg.validateBasic lib k.codec)
    attempt (k.validateAuthority ctx authority)
    Script.lift (setParams params)
    return .empty
  | .pinCodes authority codeIDs => do
    attempt (msg.validateBasic lib k.codec)
    attempt (k.validateAuthority ctx authority)
    Script.lift (GoM.forEach codeIDs k.pinCode)
    return .empty
  | .unpinCodes authority codeIDs => do
    attempt (msg.validateBasic lib k.codec)
    attempt (k.validateAuthority ctx authority)
    Script.lift (GoM.forEach codeIDs k.unpinCode)
    return .empty
  | .sudoContract authority contract payload => do
    attempt (msg.validateBasic lib k.codec)
    attempt (k.validateAuthority ctx authority)
    let contractAddr ← attempt (decodeAddress k.codec "contract" contract)
    let data ← k.sudoContract ctx contractAddr payload
    return .result data
  | .storeAndInstantiateContract authority code access admin label payload funds _ _ _ => do
    attempt (msg.validateBasic lib k.codec)
    let authorityAddr ← attempt (decodeAddress k.codec "authority" authority)
    let adminAddr ← attempt (decodeOptional k.codec "admin" admin)
    let policy := k.selectAuthorizationPolicy ctx authority
    let (codeID, _) ← guarded .create policy (k.create ctx (some authorityAddr) code access policy)
    let (contractAddr, data) ← k.instantiate ctx codeID (some authorityAddr) adminAddr payload label
      funds .classic policy
    return .contract (k.codec.string contractAddr) data
  | .addCodeUploadParamsAddresses authority addresses => do
    attempt (msg.validateBasic lib k.codec)
    attempt (k.validateAuthority ctx authority)
    Script.lift (editUploadAddresses fun current => addAddresses current addresses)
    return .empty
  | .removeCodeUploadParamsAddresses authority addresses => do
    attempt (msg.validateBasic lib k.codec)
    attempt (k.validateAuthority ctx authority)
    Script.lift (editUploadAddresses fun current => removeAddresses current addresses)
    return .empty
  | .storeAndMigrateContract authority code access contract payload => do
    -- the address is decoded before the message is validated
    let authorityAddr ← attempt (decodeAddress k.codec "authority" authority)
    attempt (msg.validateBasic lib k.codec)
    let policy := k.selectAuthorizationPolicy ctx authority
    let (codeID, checksum) ←
      guarded .create policy (k.create ctx (some authorityAddr) code access policy)
    let contractAddr ← attempt (decodeAddress k.codec "contract" contract)
    let data ← k.migrate ctx contractAddr authorityAddr codeID payload policy
    return .migratedCode codeID checksum data
  | .updateContractLabel sender newLabel contract => do
    attempt (msg.validateBasic lib k.codec)
    let senderAddr ← attempt (decodeAddress k.codec "sender" sender)
    let contractAddr ← attempt (decodeAddress k.codec "contract" contract)
    let policy := k.selectAuthorizationPolicy ctx sender
    guarded .setContractLabel policy (k.setContractLabel contractAddr senderAddr newLabel policy)
    return .empty

end Keeper

/-! ## Other modules that call back

While another module handles a message, it may call this one: `authz` executes messages of a
granter, and IBC calls the contract that a packet belongs to, the sender of an IBC v2 packet among
them.  IBC receives a packet on a branch of the store, which it drops if the contract fails or
refuses the packet; to go on from there is to go on without the packet, so that here the error is
returned.  Left out is what follows a packet of IBC v1 that a message of a contract brings and whose
acknowledgement is left for later. -/

/-- The callbacks of IBC that return no data. -/
inductive BasicCallback where
  | connectChannel
  | closeChannel
  | ackPacket
  | timeoutPacket
  | sourceCallback
  | destinationCallback
  | ackIBC2Packet
  | timeoutIBC2Packet
  | sendIBC2Packet
  deriving DecidableEq, Repr

/-- A call of this module by another one. -/
inductive ReentrantCall where
  /-- A message that the other module routes. -/
  | message (msg : WasmMsg)
  | openChannel (contract : AccAddress) (msg : IBCMsg)
  | callback (callback : BasicCallback) (contract : AccAddress) (msg : IBCMsg)
  | recvPacket (contract : AccAddress) (msg : IBCPacketReceiveMsg)
  | recvIBC2Packet (contract : AccAddress) (msg : IBCMsg)

/-- What another module does with a message: steps of its own, and calls of this module on the
context it was given, whose errors it returns.  What follows sees the outcome as bytes. -/
inductive ForeignRun (ε α : Type) where
  | last (x : ExtM ε α)
  | step (x : ExtM ε Bytes) (next : Bytes → ForeignRun ε α)
  | call (c : ReentrantCall) (next : Option Bytes → ForeignRun ε α)

/-- The run makes the call, if the steps before come out so. -/
inductive ForeignRun.Makes (c : ReentrantCall) : ForeignRun ε α → Prop
  | here (next : Option Bytes → ForeignRun ε α) : Makes c (.call c next)
  | step {x : ExtM ε Bytes} {next : Bytes → ForeignRun ε α} {b : Bytes} {w w' : World ε Unit} :
      x w = (.ok b, w') → Makes c (next b) → Makes c (.step x next)
  | later (c' : ReentrantCall) {next : Option Bytes → ForeignRun ε α} {data : Option Bytes} :
      Makes c (next data) → Makes c (.call c' next)

/-! ## Messages of contracts -/

/-- A message of another module. -/
structure OtherMsg (ε : Type) where
  /-- The name of the Go type. -/
  goType : String
  /-- The message as `%+v` prints it. -/
  text : String
  validateBasic : Except GoError Unit
  /-- `GetMsgV1Signers`. -/
  signers : Except GoError (List Bytes)
  /-- Its handler, if it can be routed: data and responses. -/
  handler : Option (SdkContext → ForeignRun ε (Option Bytes × List MsgResponse))

/-- `sdk.Msg`. -/
inductive SdkMsg (ε : Type) where
  | wasm (msg : WasmMsg)
  | other (msg : OtherMsg ε)

/-- `wasmvmtypes.IBCMsg`, as far as `IBCRawPacketHandler` handles it. -/
inductive IBCRawMsg where
  | sendPacket (channelID : String) (data : Bytes) (timeoutBlock : Option (UInt64 × UInt64))
      (timeoutTimestamp : UInt64)
  | writeAcknowledgement (channelID : String) (packetSequence : UInt64) (ack : Bytes)

/-- A message of a contract by the handler that is responsible for it. -/
inductive CosmosMsg (ε : Type) where
  /-- One that the encoders turn into SDK messages; an encoder may consume gas. -/
  | sdk (encode : SdkContext → AccAddress → String → ExtM ε (List (SdkMsg ε)))
  | ibc (msg : IBCRawMsg)
  /-- One of IBC v2, or a burn of coins. -/
  | extension (handle : SdkContext → AccAddress → ForeignRun ε DispatchResult)
  | unknown

/-- What surrounds the handlers of messages. -/
structure Messenger (ε C : Type) where
  lib : MsgLib
  /-- The `Wasm` field is set. -/
  isWasm : C → Bool
  variant : C → CosmosMsg ε
  /-- The result of the router for a message of this module. -/
  encodeResponse : WasmMsg → WasmMsgResponse → Option Bytes × List MsgResponse
  /-- `ics4Wrapper.SendPacket`. -/
  sendPacket : SdkContext → String → String → UInt64 × UInt64 → UInt64 → Bytes → ExtM ε UInt64
  /-- `ics4Wrapper.WriteAcknowledgement`. -/
  writeAcknowledgement : SdkContext → Packet → Bytes → ExtM ε Unit
  /-- `MsgIBCSendResponse`, marshalled. -/
  ibcSendResponse : UInt64 → Bytes × MsgResponse
  /-- `MsgIBCWriteAcknowledgementResponse`, marshalled. -/
  ibcWriteAcknowledgementResponse : Bytes × MsgResponse

/-- While they handle a message of the contract, other modules make this call. -/
inductive Messenger.Reenters (m : Messenger ε C) (contract : AccAddress) (c : ReentrantCall) : Prop
  | routed {msg : C} {encode : SdkContext → AccAddress → String → ExtM ε (List (SdkMsg ε))}
      {ctx ctx' : SdkContext} {port : String} {w w' : World ε Unit} {msgs : List (SdkMsg ε)}
      {other : OtherMsg ε} {handler : SdkContext → ForeignRun ε (Option Bytes × List MsgResponse)} :
      m.variant msg = .sdk encode → encode ctx contract port w = (.ok msgs, w') →
      .other other ∈ msgs → other.handler = some handler → (handler ctx').Makes c →
      Reenters m contract c
  | extension {msg : C} {handle : SdkContext → AccAddress → ForeignRun ε DispatchResult}
      {ctx : SdkContext} :
      m.variant msg = .extension handle → (handle ctx contract).Makes c → Reenters m contract c

/-- The events so far, taken away: the router gives each message an event manager of its own. -/
def takeEvents : KeeperM ε (List Event) := fun w => (.ok w.events, { w with events := [] })

/-- The events of the message, and the earlier ones put back. -/
def swapEvents (saved : List Event) : KeeperM ε (List Event) := fun w =>
  (.ok w.events, { w with events := saved })

/-- An acknowledgement is handed to the IBC module. -/
def recordHandover (h : Handover) : KeeperM ε Unit :=
  GoM.modify fun w => { w with ms := { w.ms with acks := w.ms.acks ++ [h] } }

/-- The error at the end of the chain of handlers: each handler that is not responsible answers
`ErrUnknownMsg`, and so may the one that is. -/
def noHandlerFound (e : GoError) : GoError :=
  if e.abciInfo = (errUnknownMsg.codespace, errUnknownMsg.code) then
    errUnknownMsg.wrap "no handler found"
  else e

namespace Keeper

variable (k : Keeper ε C) (m : Messenger ε C)

/-- The callbacks of IBC without data. -/
def callback (ctx : SdkContext) (contract : AccAddress) (msg : IBCMsg) :
    BasicCallback → KeeperScript ε C Unit
  | .connectChannel => k.onConnectChannel ctx contract msg
  | .closeChannel => k.onCloseChannel ctx contract msg
  | .ackPacket => k.onAckPacket ctx contract msg
  | .timeoutPacket => k.onTimeoutPacket ctx contract msg
  | .sourceCallback => k.ibcSourceCallback ctx contract msg
  | .destinationCallback => k.ibcDestinationCallback ctx contract msg
  | .ackIBC2Packet => k.onAckIBC2Packet ctx contract msg
  | .timeoutIBC2Packet => k.onTimeoutIBC2Packet ctx contract msg
  | .sendIBC2Packet => k.onSendIBC2Packet ctx contract msg

/-- A call of another module, and the data it gets back. -/
def reenter (ctx : SdkContext) : ReentrantCall → KeeperScript ε C (Option Bytes)
  | .message msg => do
    let rsp ← k.msgServer m.lib ctx msg
    return (m.encodeResponse msg rsp).1
  | .openChannel contract msg => do
    let version ← Script.lift (k.onOpenChannel ctx contract msg)
    return some (stringBytes version)
  | .callback callback contract msg => do
    k.callback ctx contract msg callback
    return none
  | .recvPacket contract msg => do
    let (contractInfo, res) ← Script.lift (k.acceptPacket ctx contract (.ibcPacketReceive msg))
    let data ← k.handleContractResponse ctx contract .ibcPacketReceive contractInfo.ibcPortID id res
      res.data
    let acknowledgement ← Script.lift (GoM.ofOption data (errInvalidRequest.wrap "left for later"))
    return some acknowledgement
  | .recvIBC2Packet contract msg => do
    let (contractInfo, res) ← Script.lift (k.acceptPacket ctx contract (.ibc2PacketReceive msg))
    k.handleContractResponse ctx contract .ibc2PacketReceive contractInfo.ibc2PortID id res res.data

/-- What another module does, with its calls of this one. -/
def runForeign (ctx : SdkContext) : ForeignRun ε α → KeeperScript ε C α
  | .last x => .lift (onExt x)
  | .step x next => do
    let b ← Script.lift (onExt x)
    runForeign ctx (next b)
  | .call c next => do
    let data ← k.reenter m ctx c
    runForeign ctx (next data)

/-- `handleSdkMessage`. -/
def handleSdkMessage (ctx : SdkContext) (contractAddr : AccAddress) :
    SdkMsg ε → KeeperScript ε C DispatchResult
  | .wasm msg => do
    attempt ((msg.validateBasic m.lib k.codec).mapError
      (.wrapped s!"failed basic validation for message type *types.{msg.name}"))
    let signer ← attempt ((k.codec.accAddressFromBech32 msg.signer).mapError .foreign)
    Script.lift (GoM.ensure (contractAddr = signer)
      (errUnauthorized.wrap "contract doesn't have permission"))
    let saved ← Script.lift takeEvents
    let rsp ← k.msgServer m.lib ctx msg
    let events ← Script.lift (swapEvents saved)
    return ⟨events, [(m.encodeResponse msg rsp).1], [(m.encodeResponse msg rsp).2]⟩
  | .other msg => do
    attempt (msg.validateBasic.mapError
      (.wrapped s!"failed basic validation for message type {msg.goType}"))
    let signers ← attempt msg.signers
    Script.lift (GoM.ensure (∀ s ∈ signers, contractAddr.bytes = s)
      (errUnauthorized.wrap "contract doesn't have permission"))
    let handler ← Script.lift (GoM.ofOption msg.handler
      (errUnknownRequest.wrap s!"can't route message {msg.text}"))
    let saved ← Script.lift takeEvents
    let (data, msgResponses) ← k.runForeign m ctx (handler ctx)
    let events ← Script.lift (swapEvents saved)
    return ⟨events, [data], [msgResponses]⟩

/-- The loop of `SDKMessageHandler.DispatchMsg`. -/
def dispatchSdkMsgs (ctx : SdkContext) (contractAddr : AccAddress) :
    List (SdkMsg ε) → KeeperScript ε C DispatchResult
  | [] => return ⟨[], [], []⟩
  | msg :: rest => do
    let first ← k.handleSdkMessage m ctx contractAddr msg
    let others ← dispatchSdkMsgs ctx contractAddr rest
    return ⟨first.events ++ others.events, first.data ++ others.data,
      first.msgResponses ++ others.msgResponses⟩

/-- `IBCRawPacketHandler.DispatchMsg`. -/
def dispatchIBC (ctx : SdkContext) (contractAddr : AccAddress) (contractIBCPortID : String) :
    IBCRawMsg → KeeperM ε DispatchResult
  | .sendPacket channelID data timeoutBlock timeoutTimestamp => do
    GoM.ensure (contractIBCPortID ≠ "") (errUnsupportedForContract.wrap "ibc not supported")
    GoM.ensure (channelID ≠ "") (errEmpty.wrap "ibc channel")
    let seq ← GoM.mapError (.wrapped "channel") (onExt (m.sendPacket ctx contractIBCPortID channelID
      (timeoutBlock.getD (0, 0)) timeoutTimestamp data))
    return ⟨[], [some (m.ibcSendResponse seq).1], [[(m.ibcSendResponse seq).2]]⟩
  | .writeAcknowledgement channelID packetSequence ack => do
    GoM.ensure (contractIBCPortID ≠ "") (errUnsupportedForContract.wrap "ibc not supported")
    GoM.ensure (channelID ≠ "") (errEmpty.wrap "ibc channel")
    let packet ← readStore (·.loadAsyncAckPacket contractIBCPortID channelID packetSequence)
    let packet ← GoM.ofOption packet (errInvalid.wrap "packet")
    GoM.mapError (.wrapped "acknowledgement") (onExt (m.writeAcknowledgement ctx packet ack))
    recordHandover ⟨contractAddr, contractIBCPortID, channelID, packetSequence, packet, ack⟩
    writeStore (·.deleteAsyncAckPacket contractIBCPortID channelID packetSequence)
    return ⟨[], [some m.ibcWriteAcknowledgementResponse.1],
      [[m.ibcWriteAcknowledgementResponse.2]]⟩

/-- `MessageHandlerChain.DispatchMsg` with the default handlers. -/
def dispatchCosmosMsg (ctx : SdkContext) (contractAddr : AccAddress) (contractIBCPortID : String)
    (msg : C) : KeeperScript ε C DispatchResult :=
  Script.mapError noHandlerFound
    (match m.variant msg with
    | .sdk encode => do
      let sdkMsgs ← Script.lift (onExt (encode ctx contractAddr contractIBCPortID))
      k.dispatchSdkMsgs m ctx contractAddr sdkMsgs
    | .ibc msg => .lift (dispatchIBC m ctx contractAddr contractIBCPortID msg)
    | .extension handle => k.runForeign m ctx (handle ctx contractAddr)
    | .unknown => attempt (.error (.registered errUnknownMsg)))

/-- What the keeper does with the messages of contracts and with replies. -/
def chain : Chain (Multistore ε) Shared SdkContext C Guarded where
  isWasm := m.isWasm
  onMsg := k.dispatchCosmosMsg m
  onReply := k.reply

end Keeper

end Wasmd
