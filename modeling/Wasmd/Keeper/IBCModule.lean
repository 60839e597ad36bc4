import Wasmd.Keeper.IBCHandler
import Wasmd.Keeper.Runs
import Wasmd.Types.CosmosMsg

/-!
# Channels, packets and callbacks of IBC

What `ibc-go` tells the module beside the packets it receives: the handshake and the end of a
channel, acknowledgements and timeouts, the callbacks for packets of other modules, and the events
of IBC v2 (`x/wasm/ibc.go`, `keeper/ibc2.go`).

* `IBCEvent` — the events, and `IBCEvent.run` — the handlers, all of them.
* `IBCEvent.Addresses` — the contract an event is meant for: the one that owns the port, or the one
  that sent the packet.
* `Delivered` — that contract runs and answers, and what else happens is the handling of the
  messages it answers with.
* `ibc_events_delivered` — **every event that is accepted is delivered so.**
* `transfer_denoms_alternate` — the denominations that contracts are told over a channel.
-/

namespace Wasmd

open ByteStore Effects Gas

variable {ε C α β : Type}

/-! ## Channels -/

/-- `channeltypes.Order`. -/
inductive ChannelOrder where
  | none
  | unordered
  | ordered
  deriving DecidableEq, Repr

/-- `Order.String`. -/
def ChannelOrder.string : ChannelOrder → String
  | none => "ORDER_NONE_UNSPECIFIED"
  | unordered => "ORDER_UNORDERED"
  | ordered => "ORDER_ORDERED"

/-- `channeltypes.Counterparty`. -/
structure Counterparty where
  portID : String
  channelID : String
  deriving DecidableEq, Repr

/-- `channeltypes.Channel`, as far as the contract is told. -/
structure Channel where
  ordering : ChannelOrder
  counterparty : Counterparty
  connectionHops : List String
  deriving DecidableEq, Repr

/-- `wasmvmtypes.IBCChannel`. -/
structure IBCChannel where
  endpoint : IBCEndpoint
  counterpartyEndpoint : IBCEndpoint
  order : String
  version : String
  connectionID : String
  deriving DecidableEq, Repr

/-- `wasmvmtypes.IBCChannelOpenMsg`. -/
inductive IBCChannelOpenMsg where
  | openInit (channel : IBCChannel)
  | openTry (channel : IBCChannel) (counterpartyVersion : String)

/-- `wasmvmtypes.IBCChannelConnectMsg`. -/
inductive IBCChannelConnectMsg where
  | openAck (channel : IBCChannel) (counterpartyVersion : String)
  | openConfirm (channel : IBCChannel)

/-- `wasmvmtypes.IBCChannelCloseMsg`. -/
inductive IBCChannelCloseMsg where
  | closeInit (channel : IBCChannel)
  | closeConfirm (channel : IBCChannel)

/-! ## Packets that were sent -/

/-- `wasmvmtypes.IBCPacketAckMsg`, and `IBCAckCallbackMsg`. -/
structure IBCPacketAckMsg where
  acknowledgement : Bytes
  originalPacket : IBCPacket
  relayer : String

/-- `wasmvmtypes.IBCPacketTimeoutMsg`, and `IBCTimeoutCallbackMsg`. -/
structure IBCPacketTimeoutMsg where
  packet : IBCPacket
  relayer : String

/-- `wasmvmtypes.IBCSourceCallbackMsg`. -/
inductive IBCSourceCallbackMsg where
  | acknowledgement (msg : IBCPacketAckMsg)
  | timeout (msg : IBCPacketTimeoutMsg)

/-- `wasmvmtypes.IBC2PacketSendMsg`. -/
structure IBC2PacketSendMsg where
  payload : IBC2Payload
  sourceClient : String
  destinationClient : String
  packetSequence : UInt64
  signer : String

/-- `wasmvmtypes.IBC2PacketTimeoutMsg`. -/
structure IBC2PacketTimeoutMsg where
  payload : IBC2Payload
  sourceClient : String
  destinationClient : String
  packetSequence : UInt64
  relayer : String

/-- `wasmvmtypes.IBC2AcknowledgeMsg`. -/
structure IBC2AcknowledgeMsg where
  sourceClient : String
  destinationClient : String
  data : IBC2Payload
  acknowledgement : Bytes
  relayer : String

/-! ## Transfers -/

/-- `transfertypes.Hop`. -/
structure Hop where
  portID : String
  channelID : String
  deriving DecidableEq, Repr

/-- `transfertypes.Denom`. -/
structure Denom where
  base : String
  trace : List Hop
  deriving DecidableEq, Repr

/-- `Denom.HasPrefix`: the first hop is the given one. -/
def Denom.hasPrefix (d : Denom) (portID channelID : String) : Bool :=
  d.trace.head? = some ⟨portID, channelID⟩

/-- `transfertypes.InternalTransferRepresentation` with its token. -/
structure TransferData where
  denom : Denom
  amount : String
  sender : String
  receiver : String
  deriving DecidableEq, Repr

/-- The denomination of the tokens on the receiving chain: a hop over the channel is undone if it
was the last one, and added otherwise. -/
def receivedDenom (packet : Packet) (d : Denom) : Denom :=
  if d.hasPrefix packet.sourcePort packet.sourceChannel then { d with trace := d.trace.tail }
  else { d with trace := ⟨packet.destinationPort, packet.destinationChannel⟩ :: d.trace }

/-- `wasmvmtypes.IBCTransferCallback`. -/
structure IBCTransferCallback where
  receiver : String
  sender : String
  funds : List Wasmvm.Coin

/-- `wasmvmtypes.IBCDestinationCallbackMsg`. -/
structure IBCDestinationCallbackMsg where
  ack : Bytes
  packet : IBCPacket
  transfer : Option IBCTransferCallback

/-- `ibcexported.Acknowledgement`. -/
structure Acknowledgement where
  success : Bool
  acknowledgement : Bytes

/-! ## Other modules -/

/-- What the handlers use of other modules and of the VM. -/
structure IBCModuleLib (ε : Type) extends IBCLib where
  /-- `channeltypes.ParseChannelSequence`. -/
  parseChannelSequence : String → Except GoError UInt64
  /-- `ChannelKeeper.GetChannel`. -/
  getChannel : String → String → ExtM ε (Option Channel)
  /-- `ICS4Wrapper.GetAppVersion`. -/
  getAppVersion : String → String → ExtM ε (Option String)
  /-- `ICS20TransferPortSource.GetPort`. -/
  getPort : ExtM ε String
  /-- `transfertypes.UnmarshalPacketData`. -/
  unmarshalPacketData : Bytes → String → Except GoError TransferData
  /-- `Denom.IBCDenom`. -/
  ibcDenom : Denom → String
  openMsg : IBCChannelOpenMsg → IBCMsg
  connectMsg : IBCChannelConnectMsg → IBCMsg
  closeMsg : IBCChannelCloseMsg → IBCMsg
  ackMsg : IBCPacketAckMsg → IBCMsg
  timeoutMsg : IBCPacketTimeoutMsg → IBCMsg
  sourceCallbackMsg : IBCSourceCallbackMsg → IBCMsg
  destinationCallbackMsg : IBCDestinationCallbackMsg → IBCMsg
  sendMsg2 : IBC2PacketSendMsg → IBCMsg
  timeoutMsg2 : IBC2PacketTimeoutMsg → IBCMsg
  ackMsg2 : IBC2AcknowledgeMsg → IBCMsg

def errMaxIBCChannels : Registered := ⟨"wasm", 16, "max transfer channels"⟩

/-! The errors of `ibc-go` are not part of this repository; nothing is proved of their codes. -/

/-- `channeltypes.ErrChannelNotFound`. -/
def errChannelNotFound : Registered := ⟨"channel", 3, "channel not found"⟩
/-- `channeltypes.ErrInvalidChannelVersion`. -/
def errInvalidChannelVersion : Registered := ⟨"channel", 24, "invalid channel version"⟩
/-- `ibcerrors.ErrUnauthorized`. -/
def errIBCUnauthorized : Registered := ⟨"ibc", 2, "unauthorized"⟩

/-- `math.MaxUint32`. -/
def maxUint32 : Nat := 2 ^ 32 - 1

/-- `ValidateChannelParams`. -/
def IBCModuleLib.validateChannelParams (lib : IBCModuleLib ε) (channelID : String) :
    Except GoError Unit := do
  let channelSequence ← lib.parseChannelSequence channelID
  let given := channelSequence.toNat
  if given > maxUint32 then .error (errMaxIBCChannels.wrap
    s!"channel sequence {given} is greater than max allowed transfer channels {maxUint32}")

/-- `connectionHops[0]`. -/
def firstHop : List String → Except Panic String
  | [] => .error (.message "index out of range")
  | hop :: _ => .ok hop

/-- `toWasmVMChannel`. -/
def toWasmVMChannel (portID channelID : String) (channelInfo : Channel) (appVersion : String) :
    Except Panic IBCChannel := do
  let connectionID ← firstHop channelInfo.connectionHops
  return ⟨⟨portID, channelID⟩,
    ⟨channelInfo.counterparty.portID, channelInfo.counterparty.channelID⟩,
    channelInfo.ordering.string, appVersion, connectionID⟩

/-- `validateSender`. -/
def validateSender (codec : AddressCodec) (contractAddr senderAddr : String) :
    Except GoError AccAddress := do
  let contractAddress ← (codec.accAddressFromBech32 contractAddr).mapError fun text =>
    .wrapped "contract address" (.foreign text)
  let senderAddress ← (codec.accAddressFromBech32 senderAddr).mapError fun text =>
    .wrapped "packet sender address" (.foreign text)
  let sender := codec.string senderAddress
  if contractAddress = senderAddress then .ok contractAddress
  else .error (errExecuteFailed.wrap
    s!"contract address {contractAddr} does not match packet sender {sender}")

/-! ## The handlers of IBC v1 -/

namespace Keeper

variable (k : Keeper ε C) (lib : IBCModuleLib ε)
  (handler : Response SdkContext C → KeeperM ε (Option Bytes))

/-- `ContractFromPortID` with the error of the handlers. -/
def contractOfPort (portID : String) : Except GoError AccAddress :=
  (contractFromPortID k.codec portID).mapError (.wrapped "contract port id")

/-- `OnChanOpenInit`: the version proposed is accepted when the contract returns none. -/
def onChanOpenInit (ctx : SdkContext) (order : ChannelOrder) (connectionHops : List String)
    (portID channelID : String) (counterparty : Counterparty) (version : String) :
    KeeperM ε String := do
  orError (lib.validateChannelParams channelID)
  let contractAddr ← orError (k.contractOfPort portID)
  let channel ← orPanic
    (toWasmVMChannel portID channelID ⟨order, counterparty, connectionHops⟩ version)
  let acceptedVersion ← k.onOpenChannel ctx contractAddr (lib.openMsg (.openInit channel))
  if acceptedVersion = "" then
    GoM.ensure (version ≠ "") (errEmpty.wrap "version")
    return version
  else return acceptedVersion

/-- `OnChanOpenTry`: that of the counterparty, which may be empty. -/
def onChanOpenTry (ctx : SdkContext) (order : ChannelOrder) (connectionHops : List String)
    (portID channelID : String) (counterparty : Counterparty) (counterpartyVersion : String) :
    KeeperM ε String := do
  orError (lib.validateChannelParams channelID)
  let contractAddr ← orError (k.contractOfPort portID)
  let channel ← orPanic
    (toWasmVMChannel portID channelID ⟨order, counterparty, connectionHops⟩ counterpartyVersion)
  let version ← k.onOpenChannel ctx contractAddr
    (lib.openMsg (.openTry channel counterpartyVersion))
  return if version = "" then counterpartyVersion else version

/-- The steps of the other handlers of channels: the contract of the port, the channel as `edit`
changes it, and the callback. -/
def channelCallback (portID channelID : String) (edit : Channel → Channel)
    (callback : AccAddress → IBCChannel → KeeperScript ε C Unit) : KeeperM ε Unit := do
  let contractAddr ← orError (k.contractOfPort portID)
  let channelInfo ← onExt (lib.getChannel portID channelID)
  let channelInfo ← GoM.ofOption channelInfo
    (errChannelNotFound.wrap s!"port ID ({portID}) channel ID ({channelID})")
  let appVersion ← onExt (lib.getAppVersion portID channelID)
  let appVersion ← GoM.ofOption appVersion
    (errInvalidChannelVersion.wrap s!"port ID ({portID}) channel ID ({channelID})")
  let channel ← orPanic (toWasmVMChannel portID channelID (edit channelInfo) appVersion)
  (callback contractAddr channel).run handler

/-- `OnChanOpenAck`: the channel is shown with the counterparty it is connected to. -/
def onChanOpenAck (ctx : SdkContext) (portID channelID counterpartyChannelID : String)
    (counterpartyVersion : String) : KeeperM ε Unit :=
  k.channelCallback lib handler portID channelID
    (fun channelInfo => { channelInfo with
      counterparty := { channelInfo.counterparty with channelID := counterpartyChannelID } })
    fun contractAddr channel =>
      k.onConnectChannel ctx contractAddr (lib.connectMsg (.openAck channel counterpartyVersion))

/-- `OnChanOpenConfirm`. -/
def onChanOpenConfirm (ctx : SdkContext) (portID channelID : String) : KeeperM ε Unit :=
  k.channelCallback lib handler portID channelID id fun contractAddr channel =>
    k.onConnectChannel ctx contractAddr (lib.connectMsg (.openConfirm channel))

/-- `OnChanCloseInit`. -/
def onChanCloseInit (ctx : SdkContext) (portID channelID : String) : KeeperM ε Unit :=
  k.channelCallback lib handler portID channelID id fun contractAddr channel =>
    k.onCloseChannel ctx contractAddr (lib.closeMsg (.closeInit channel))

/-- `OnChanCloseConfirm`. -/
def onChanCloseConfirm (ctx : SdkContext) (portID channelID : String) : KeeperM ε Unit :=
  k.channelCallback lib handler portID channelID id fun contractAddr channel =>
    k.onCloseChannel ctx contractAddr (lib.closeMsg (.closeConfirm channel))

/-- `OnAcknowledgementPacket`. -/
def acknowledgementPacket (ctx : SdkContext) (packet : Packet) (acknowledgement : Bytes)
    (relayer : AccAddress) : KeeperM ε Unit := do
  let contractAddr ← orError (k.contractOfPort packet.sourcePort)
  GoM.mapError (.wrapped "on ack") ((k.onAckPacket ctx contractAddr
    (lib.ackMsg ⟨acknowledgement, newIBCPacket packet, k.codec.string relayer⟩)).run handler)

/-- `OnTimeoutPacket`. -/
def timeoutPacket (ctx : SdkContext) (packet : Packet) (relayer : AccAddress) : KeeperM ε Unit := do
  let contractAddr ← orError (k.contractOfPort packet.sourcePort)
  GoM.mapError (.wrapped "on timeout") ((k.onTimeoutPacket ctx contractAddr
    (lib.timeoutMsg ⟨newIBCPacket packet, k.codec.string relayer⟩)).run handler)

/-! ### Callbacks for packets of other modules -/

/-- `IBCSendPacketCallback`. -/
def ibcSendPacketCallback (contractAddress packetSenderAddress : String) : KeeperM ε Unit := do
  let _ ← orError (validateSender k.codec contractAddress packetSenderAddress)
  return ()

/-- `IBCOnAcknowledgementPacketCallback`. -/
def ibcOnAcknowledgementPacketCallback (ctx : SdkContext) (packet : Packet)
    (acknowledgement : Bytes) (relayer : AccAddress)
    (contractAddress packetSenderAddress : String) : KeeperM ε Unit := do
  let contractAddr ← orError (validateSender k.codec contractAddress packetSenderAddress)
  GoM.mapError (.wrapped "on source chain callback ack") ((k.ibcSourceCallback ctx contractAddr
    (lib.sourceCallbackMsg (.acknowledgement
      ⟨acknowledgement, newIBCPacket packet, k.codec.string relayer⟩))).run handler)

/-- `IBCOnTimeoutPacketCallback`. -/
def ibcOnTimeoutPacketCallback (ctx : SdkContext) (packet : Packet) (relayer : AccAddress)
    (contractAddress packetSenderAddress : String) : KeeperM ε Unit := do
  let contractAddr ← orError (validateSender k.codec contractAddress packetSenderAddress)
  GoM.mapError (.wrapped "on source chain callback timeout") ((k.ibcSourceCallback ctx contractAddr
    (lib.sourceCallbackMsg (.timeout ⟨newIBCPacket packet, k.codec.string relayer⟩))).run handler)

/-- The transfer in a packet, as the contract is told of it. -/
def transferCallback (packet : Packet) (version : String) : Except GoError IBCTransferCallback := do
  let transferData ← (lib.unmarshalPacketData packet.data version).mapError
    (.wrapped "unmarshal transfer packet data")
  let receiverAddr ← (k.codec.accAddressFromBech32 transferData.receiver).mapError .foreign
  return ⟨k.codec.string receiverAddr, transferData.sender,
    [{ denom := lib.ibcDenom (receivedDenom packet transferData.denom)
       amount := transferData.amount }]⟩

/-- `IBCReceivePacketCallback`: a nil acknowledgement is dereferenced. -/
def ibcReceivePacketCallback (ctx : SdkContext) (packet : Packet) (ack : Option Acknowledgement)
    (contractAddress version : String) : KeeperM ε Unit := do
  let contractAddr ← orError ((k.codec.accAddressFromBech32 contractAddress).mapError .foreign)
  let transferPort ← onExt lib.getPort
  let ack ← GoM.ofOptionPanic ack nilPointer
  let transfer ← orError
    (if packet.destinationPort = transferPort ∧ ack.success then
      (k.transferCallback lib packet version).map some
    else .ok none)
  GoM.mapError (.wrapped "on destination chain callback")
    ((k.ibcDestinationCallback ctx contractAddr (lib.destinationCallbackMsg
      ⟨ack.acknowledgement, newIBCPacket packet, transfer⟩)).run handler)

/-! ## The handlers of IBC v2 -/

/-- `IBC2Handler.OnSendPacket`: only the contract itself sends from its port. -/
def sendPacket2 (ctx : SdkContext) (sourceClient destinationClient : String) (sequence : UInt64)
    (payload : IBC2Payload) (signer : AccAddress) : KeeperM ε Unit := do
  let contractAddr ← mustSucceed ((contractFromPortID2 k.codec k.hrp payload.sourcePort).mapError
    (.wrapped "Invalid contract port id"))
  let signerText := k.codec.string signer
  let contractText := k.codec.string contractAddr
  GoM.ensure (signer = contractAddr) (errIBCUnauthorized.wrap
    s!"signer {signerText} is different from contract {contractText}")
  GoM.mapError (.wrapped "on ibc2 send") ((k.onSendIBC2Packet ctx contractAddr
    (lib.sendMsg2 ⟨payload, sourceClient, destinationClient, sequence, signerText⟩)).run handler)

/-- `IBC2Handler.OnTimeoutPacket`. -/
def timeoutPacket2 (ctx : SdkContext) (sourceClient destinationClient : String) (sequence : UInt64)
    (payload : IBC2Payload) (relayer : AccAddress) : KeeperM ε Unit := do
  let contractAddr ← orError ((contractFromPortID2 k.codec k.hrp payload.sourcePort).mapError
    (.wrapped "contract port id"))
  GoM.mapError (.wrapped "on timeout") ((k.onTimeoutIBC2Packet ctx contractAddr (lib.timeoutMsg2
    ⟨payload, sourceClient, destinationClient, sequence, k.codec.string relayer⟩)).run handler)

/-- `IBC2Handler.OnAcknowledgementPacket`. -/
def acknowledgementPacket2 (ctx : SdkContext) (sourceClient destinationClient : String)
    (acknowledgement : Bytes) (payload : IBC2Payload) (relayer : AccAddress) : KeeperM ε Unit := do
  let contractAddr ← orError ((contractFromPortID2 k.codec k.hrp payload.sourcePort).mapError
    (.wrapped "contract port id"))
  GoM.mapError (.wrapped "on ack")
    ((k.onAckIBC2Packet ctx contractAddr (lib.ackMsg2 ⟨sourceClient, destinationClient, payload,
      acknowledgement, k.codec.string relayer⟩)).run handler)

end Keeper

/-! ## Events -/

/-- What `ibc-go` tells the module. -/
inductive IBCEvent where
  | chanOpenInit (ctx : SdkContext) (order : ChannelOrder) (connectionHops : List String)
      (portID channelID : String) (counterparty : Counterparty) (version : String)
  | chanOpenTry (ctx : SdkContext) (order : ChannelOrder) (connectionHops : List String)
      (portID channelID : String) (counterparty : Counterparty) (counterpartyVersion : String)
  | chanOpenAck (ctx : SdkContext) (portID channelID counterpartyChannelID : String)
      (counterpartyVersion : String)
  | chanOpenConfirm (ctx : SdkContext) (portID channelID : String)
  | chanCloseInit (ctx : SdkContext) (portID channelID : String)
  | chanCloseConfirm (ctx : SdkContext) (portID channelID : String)
  | recvPacket (ctx : SdkContext) (packet : Packet) (relayer : AccAddress)
  | acknowledgementPacket (ctx : SdkContext) (packet : Packet) (acknowledgement : Bytes)
      (relayer : AccAddress)
  | timeoutPacket (ctx : SdkContext) (packet : Packet) (relayer : AccAddress)
  | sendPacketCallback (ctx : SdkContext) (contractAddress packetSenderAddress : String)
  | acknowledgementPacketCallback (ctx : SdkContext) (packet : Packet) (acknowledgement : Bytes)
      (relayer : AccAddress) (contractAddress packetSenderAddress : String)
  | timeoutPacketCallback (ctx : SdkContext) (packet : Packet) (relayer : AccAddress)
      (contractAddress packetSenderAddress : String)
  | receivePacketCallback (ctx : SdkContext) (packet : Packet) (ack : Option Acknowledgement)
      (contractAddress version : String)
  | sendPacket2 (ctx : SdkContext) (sourceClient destinationClient : String) (sequence : UInt64)
      (payload : IBC2Payload) (signer : AccAddress)
  | recvPacket2 (ctx : SdkContext) (sourceClient destinationClient : String) (sequence : UInt64)
      (payload : IBC2Payload) (relayer : AccAddress)
  | timeoutPacket2 (ctx : SdkContext) (sourceClient destinationClient : String) (sequence : UInt64)
      (payload : IBC2Payload) (relayer : AccAddress)
  | acknowledgementPacket2 (ctx : SdkContext) (sourceClient destinationClient : String)
      (acknowledgement : Bytes) (payload : IBC2Payload) (relayer : AccAddress)

/-- What a handler returns beside an error. -/
inductive IBCOutcome where
  | done
  | version (version : String)
  | ack (answer : Keeper.PacketAck)
  | result (answer : Keeper.RecvPacketResult)
  deriving DecidableEq, Repr

/-- `ibc-go` keeps the state: only a packet that was received is answered with a failure and not
with an error. -/
def IBCOutcome.commits : IBCOutcome → Bool
  | .done | .version _ => true
  | .ack answer => Keeper.PacketAck.commits answer
  | .result answer => Keeper.RecvPacketResult.commits answer

namespace IBCEvent

/-- The context of the event. -/
def ctx : IBCEvent → SdkContext
  | chanOpenInit ctx .. | chanOpenTry ctx .. | chanOpenAck ctx .. | chanOpenConfirm ctx ..
  | chanCloseInit ctx .. | chanCloseConfirm ctx .. | recvPacket ctx ..
  | acknowledgementPacket ctx ..
  | timeoutPacket ctx .. | sendPacketCallback ctx .. | acknowledgementPacketCallback ctx ..
  | timeoutPacketCallback ctx .. | receivePacketCallback ctx .. | sendPacket2 ctx ..
  | recvPacket2 ctx .. | timeoutPacket2 ctx .. | acknowledgementPacket2 ctx .. => ctx

/-- The handler of the event. -/
def run (k : Keeper ε C) (m : Messenger ε C) (lib : IBCModuleLib ε) :
    IBCEvent → KeeperM ε IBCOutcome
  | chanOpenInit ctx order hops portID channelID counterparty version =>
    .version <$> k.onChanOpenInit lib ctx order hops portID channelID counterparty version
  | chanOpenTry ctx order hops portID channelID counterparty counterpartyVersion =>
    .version <$> k.onChanOpenTry lib ctx order hops portID channelID counterparty
      counterpartyVersion
  | chanOpenAck ctx portID channelID counterpartyChannelID counterpartyVersion =>
    (fun _ => .done) <$> k.onChanOpenAck lib (k.handler m) ctx portID channelID
      counterpartyChannelID counterpartyVersion
  | chanOpenConfirm ctx portID channelID =>
    (fun _ => .done) <$> k.onChanOpenConfirm lib (k.handler m) ctx portID channelID
  | chanCloseInit ctx portID channelID =>
    (fun _ => .done) <$> k.onChanCloseInit lib (k.handler m) ctx portID channelID
  | chanCloseConfirm ctx portID channelID =>
    (fun _ => .done) <$> k.onChanCloseConfirm lib (k.handler m) ctx portID channelID
  | recvPacket ctx packet relayer =>
    .ack <$> k.recvPacket lib.toIBCLib (k.handler m) ctx packet relayer
  | acknowledgementPacket ctx packet acknowledgement relayer =>
    (fun _ => .done) <$> k.acknowledgementPacket lib (k.handler m) ctx packet
      acknowledgement relayer
  | timeoutPacket ctx packet relayer =>
    (fun _ => .done) <$> k.timeoutPacket lib (k.handler m) ctx packet relayer
  | sendPacketCallback _ contractAddress packetSenderAddress =>
    (fun _ => .done) <$> k.ibcSendPacketCallback contractAddress packetSenderAddress
  | acknowledgementPacketCallback ctx packet acknowledgement relayer contractAddress sender =>
    (fun _ => .done) <$> k.ibcOnAcknowledgementPacketCallback lib (k.handler m) ctx packet
      acknowledgement relayer contractAddress sender
  | timeoutPacketCallback ctx packet relayer contractAddress sender =>
    (fun _ => .done) <$> k.ibcOnTimeoutPacketCallback lib (k.handler m) ctx packet relayer
      contractAddress sender
  | receivePacketCallback ctx packet ack contractAddress version =>
    (fun _ => .done) <$> k.ibcReceivePacketCallback lib (k.handler m) ctx packet ack contractAddress
      version
  | sendPacket2 ctx sourceClient destinationClient sequence payload signer =>
    (fun _ => .done) <$> k.sendPacket2 lib (k.handler m) ctx sourceClient destinationClient sequence
      payload signer
  | recvPacket2 ctx sourceClient destinationClient sequence payload relayer =>
    .result <$> k.recvPacket2 lib.toIBCLib (k.handler m) ctx sourceClient destinationClient sequence
      payload relayer
  | timeoutPacket2 ctx sourceClient destinationClient sequence payload relayer =>
    (fun _ => .done) <$> k.timeoutPacket2 lib (k.handler m) ctx sourceClient
      destinationClient sequence payload relayer
  | acknowledgementPacket2 ctx sourceClient destinationClient acknowledgement payload relayer =>
    (fun _ => .done) <$> k.acknowledgementPacket2 lib (k.handler m) ctx sourceClient
      destinationClient acknowledgement payload relayer

/-- The contract that an event is meant for. -/
def Addresses (k : Keeper ε C) : IBCEvent → AccAddress → Prop
  | chanOpenInit _ _ _ portID .., a | chanOpenTry _ _ _ portID .., a | chanOpenAck _ portID .., a
  | chanOpenConfirm _ portID _, a | chanCloseInit _ portID _, a | chanCloseConfirm _ portID _, a =>
    contractFromPortID k.codec portID = .ok a
  | recvPacket _ packet _, a => contractFromPortID k.codec packet.destinationPort = .ok a
  | acknowledgementPacket _ packet .., a | timeoutPacket _ packet _, a =>
    contractFromPortID k.codec packet.sourcePort = .ok a
  -- a callback for a packet that was sent goes to its sender only
  | sendPacketCallback _ contractAddress sender, a
  | acknowledgementPacketCallback _ _ _ _ contractAddress sender, a
  | timeoutPacketCallback _ _ _ contractAddress sender, a =>
    k.codec.accAddressFromBech32 contractAddress = .ok a ∧
      k.codec.accAddressFromBech32 sender = .ok a
  | receivePacketCallback _ _ _ contractAddress _, a =>
    k.codec.accAddressFromBech32 contractAddress = .ok a
  | recvPacket2 _ _ _ _ payload _, a =>
    contractFromPortID2 k.codec k.hrp payload.destinationPort = .ok a
  -- the signer of a packet of IBC v2 is the contract
  | sendPacket2 _ _ _ _ payload signer, a =>
    contractFromPortID2 k.codec k.hrp payload.sourcePort = .ok a ∧ signer = a
  | timeoutPacket2 _ _ _ _ payload _, a | acknowledgementPacket2 _ _ _ _ payload _, a =>
    contractFromPortID2 k.codec k.hrp payload.sourcePort = .ok a

/-- The entry point of the contract that the event leads to; a packet of another module that is
being sent is only checked. -/
def entryPoint? : IBCEvent → Option EntryPoint
  | chanOpenInit .. | chanOpenTry .. => some .ibcChannelOpen
  | chanOpenAck .. | chanOpenConfirm .. => some .ibcChannelConnect
  | chanCloseInit .. | chanCloseConfirm .. => some .ibcChannelClose
  | recvPacket .. => some .ibcPacketReceive
  | acknowledgementPacket .. => some .ibcPacketAck
  | timeoutPacket .. => some .ibcPacketTimeout
  | sendPacketCallback .. => none
  | acknowledgementPacketCallback .. | timeoutPacketCallback .. => some .ibcSourceCallback
  | receivePacketCallback .. => some .ibcDestinationCallback
  | sendPacket2 .. => some .ibc2PacketSend
  | recvPacket2 .. => some .ibc2PacketReceive
  | timeoutPacket2 .. => some .ibc2PacketTimeout
  | acknowledgementPacket2 .. => some .ibc2PacketAck

/-- The packet that is kept for a later acknowledgement. -/
def keeps : IBCEvent → IBCOutcome → Option Packet
  | recvPacket _ packet _, .ack .later => some packet
  | _, _ => none

end IBCEvent

/-! ## Delivery -/

section Delivery

variable {k : Keeper ε C} {m : Messenger ε C} {lib : IBCModuleLib ε}
  {w w₀ w₁ w₂ w' : World (Multistore ε) Shared} {a : AccAddress} {ctx : SdkContext}
  {entry : EntryPoint} {packet : Option Packet}

/-- What comes before the call of the contract: other modules are asked about the channel or about
the port of transfers, or the events so far are put aside. -/
inductive Prepared (lib : IBCModuleLib ε) (w : World (Multistore ε) Shared) :
    World (Multistore ε) Shared → Prop
  | here : Prepared lib w w
  | received : Prepared lib w { w with events := [] }
  | channel {portID channelID : String} {found : Option Channel} {version : Option String}
      {w₁ w₂ : World (Multistore ε) Shared} :
      onExt (lib.getChannel portID channelID) w = (.ok found, w₁) →
      onExt (lib.getAppVersion portID channelID) w₁ = (.ok version, w₂) → Prepared lib w w₂
  | port {portID : String} {w₁ : World (Multistore ε) Shared} :
      onExt lib.getPort w = (.ok portID, w₁) → Prepared lib w w₁

/-- Nothing of this module is changed before the call. -/
theorem Prepared.confined (h : Prepared lib w w₀) : Confined noContract w w₀ := by
  cases h with
  | here => exact .refl w
  | received => exact .of_eq rfl rfl rfl
  | channel hchannel hversion =>
      exact ((Stays.onExt _).confined hchannel).trans ((Stays.onExt _).confined hversion)
  | port hport => exact (Stays.onExt _).confined hport

/-- What is left to do at the end: a packet may be kept. -/
structure Settled (packet : Option Packet) (w w' : World (Multistore ε) Shared) : Prop where
  ms : w'.ms = { w.ms with wasm := packet.elim w.ms.wasm w.ms.wasm.storeAsyncAckPacket }
  shared : w'.shared = w.shared

theorem Settled.refl (w : World (Multistore ε) Shared) : Settled none w w := ⟨rfl, rfl⟩

/-- **An event is delivered to a contract**: its code is called on its own storage and answers,
which touches nothing else.  It may let a channel open.  Otherwise the events of its response are
emitted, the messages of the response are handled, one call deeper and from the port stored for the
contract that the entry point takes, and a packet may be kept. -/
inductive Delivered (k : Keeper ε C) (m : Messenger ε C) (lib : IBCModuleLib ε) (ctx : SdkContext)
    (a : AccAddress) (entry : EntryPoint) (packet : Option Packet)
    (w w' : World (Multistore ε) Shared) : Prop
  | accepted (msg : IBCMsg) (hentry : entry = .ibcChannelOpen) (hpacket : packet = none)
      (hran : Accepted k ctx a msg w w')
  | responded (w₀ w₁ w₂ w₃ : World (Multistore ε) Shared) (info : ContractInfo) (input : VMInput)
      (res : ContractResponse C) (data out : Option Bytes) (hprepared : Prepared lib w w₀)
      (hinput : input.entryPoint = entry) (hran : Responded k ctx a info input res w₀ w₁)
      (hemit : k.emitResponse ctx a res.attributes res.events w₁ = (.ok ctx.deeper, w₂))
      (hhandled : k.handler m
        ⟨ctx.deeper, a, entry, entry.port info, res.messages, data⟩ w₂ = (.ok out, w₃))
      (hquiet : res.messages = [] → w₃ = w₂) (hend : Settled packet w₃ w')

/-- A response without messages changes nothing. -/
theorem handler_nil {r : Response SdkContext C} {data : Option Bytes} (hmsgs : r.msgs = [])
    (h : k.handler m r w = (.ok data, w')) : w' = w := by
  have hhandle : ((k.chain m).dispatcher r.ctx
      ((k.chain m).handlerAt (k.maxCallDepth.toNat + 1))).handle r.contract r.ibcPort r.msgs r.data
      w = (.ok data, w') := h
  rw [hmsgs] at hhandle
  obtain ⟨_, w₁, hloop, hret⟩ := GoM.bind_ok_iff.mp hhandle
  obtain ⟨-, rfl⟩ := GoM.pure_ok_iff.mp hret
  exact (GoM.pure_ok_iff.mp hloop).2

/-- The contract is stored. -/
theorem Delivered.stored (h : Delivered k m lib ctx a entry packet w w') :
    (w.ms.wasm.getContractInfo a).isSome := by
  cases h with
  | accepted msg hentry hpacket hran =>
      obtain ⟨info, _, _, hinfo, -⟩ := hran.returned
      exact Option.isSome_of_eq_some hinfo
  | responded w₀ w₁ w₂ w₃ info input res data out hprepared hinput hran =>
      rw [← hprepared.confined.wasm_eq]
      exact Option.isSome_of_eq_some hran.stored

/-- A script that starts with a step. -/
theorem Script.run_lift_bind_ok {x : KeeperM ε α} {f : α → KeeperScript ε C β} {b : β}
    {handler : Response SdkContext C → KeeperM ε (Option Bytes)}
    (h : (Script.lift x >>= f).run handler w = (.ok b, w')) :
    ∃ y w₁, x w = (.ok y, w₁) ∧ (f y).run handler w₁ = (.ok b, w') :=
  GoM.bind_ok_iff.mp h

/-- A run of a contract, and its response. -/
theorem Delivered.of_handled {info : ContractInfo} {input : VMInput} {res : ContractResponse C}
    {port : String} {data out : Option Bytes} (hprepared : Prepared lib w w₀)
    (hinput : input.entryPoint = entry) (hran : Responded k ctx a info input res w₀ w₁)
    (hport : port = entry.port info)
    (h : (k.handleContractResponse ctx a entry port id res data).run (k.handler m) w₁ =
      (.ok out, w₂)) (hend : Settled packet w₂ w') :
    Delivered k m lib ctx a entry packet w w' := by
  subst hport
  obtain ⟨w₃, hemit, -, hhandled⟩ := handleContractResponse_run_ok h
  exact .responded w₀ w₁ w₃ w₂ info input res data out hprepared hinput hran hemit hhandled
    (fun hmsgs => handler_nil hmsgs hhandled) hend

theorem basicCallback_delivered {port : ContractInfo → String} {input : VMInput} {u : Unit}
    (hprepared : Prepared lib w w₀) (hport : ∀ info, port info = input.entryPoint.port info)
    (h : (k.basicCallback port input ctx a).run (k.handler m) w₀ = (.ok u, w')) :
    Delivered k m lib ctx a input.entryPoint none w w' := by
  obtain ⟨⟨info, res⟩, w₁, hrun, h₁⟩ := Script.run_lift_bind_ok h
  obtain ⟨out, w₂, hhandled, hret⟩ := Script.run_bind_ok_iff.mp h₁
  obtain ⟨-, rfl⟩ := GoM.pure_ok_iff.mp hret
  exact .of_handled hprepared rfl (runContract_responded hrun) (hport info) hhandled (.refl _)

/-! ### Received packets -/

theorem receiveIBC2Packet_delivered {msg : IBCMsg} {out : Keeper.RecvPacketResult}
    (hprepared : Prepared lib w w₀)
    (h : (k.receiveIBC2Packet ctx a msg).run (k.handler m) w₀ = (.ok out, w₂))
    (hcommits : Keeper.RecvPacketResult.commits out = true) (hend : Settled none w₂ w') :
    Delivered k m lib ctx a .ibc2PacketReceive none w w' := by
  obtain ⟨⟨info, res⟩, w₁, hrun, h₁⟩ := Script.run_lift_bind_ok h
  cases res with
  | error err =>
      obtain ⟨rfl, -⟩ := GoM.pure_ok_iff.mp h₁
      cases hcommits
  | ok res =>
      obtain ⟨data, w₃, hhandled, hret⟩ := Script.run_bind_ok_iff.mp h₁
      obtain rfl : w₂ = w₃ := by
        cases data with
        | none => exact (GoM.pure_ok_iff.mp hret).2
        | some data => exact (GoM.pure_ok_iff.mp hret).2
      exact .of_handled hprepared rfl (runReceive_responded hrun) rfl hhandled hend

theorem receivePacket_delivered {msg : IBCPacketReceiveMsg} {out : Keeper.PacketAck}
    (hprepared : Prepared lib w w₀)
    (h : (k.receivePacket ctx a msg).run (k.handler m) w₀ = (.ok out, w₂))
    (hcommits : Keeper.PacketAck.commits out = true) (hend : Settled packet w₂ w') :
    Delivered k m lib ctx a .ibcPacketReceive packet w w' := by
  obtain ⟨⟨info, res⟩, w₁, hrun, h₁⟩ := Script.run_lift_bind_ok h
  cases res with
  | error err =>
      obtain ⟨rfl, -⟩ := GoM.pure_ok_iff.mp h₁
      cases hcommits
  | ok res =>
      obtain ⟨data, w₃, hhandled, hret⟩ := Script.run_bind_ok_iff.mp h₁
      obtain ⟨-, rfl⟩ := GoM.pure_ok_iff.mp hret
      exact .of_handled hprepared rfl (runReceive_responded hrun) rfl hhandled hend

/-- Only a packet without an acknowledgement is kept. -/
def keptPacket (packet : Packet) : Keeper.PacketAck → Option Packet
  | .later => some packet
  | _ => none

theorem onRecvPacket_delivered {msg : IBCPacketReceiveMsg} {out : Keeper.PacketAck}
    (hprepared : Prepared lib w w₀)
    (h : (k.onRecvPacket ctx a msg).run (k.handler m) w₀ = (.ok out, w₂))
    (hcommits : Keeper.PacketAck.commits out = true) (hend : Settled none w₂ w') :
    Delivered k m lib ctx a .ibcPacketReceive (keptPacket (convertPacket msg.packet) out) w w' := by
  rw [onRecvPacket_run] at h
  obtain ⟨ack, w₁, hreceive, hkeep⟩ := GoM.bind_ok_iff.mp h
  cases ack with
  | later =>
      obtain ⟨_, w₃, hstore, hret⟩ := GoM.bind_ok_iff.mp hkeep
      obtain rfl := writeStore_ok_iff.mp hstore
      obtain ⟨rfl, rfl⟩ := GoM.pure_ok_iff.mp hret
      exact receivePacket_delivered hprepared hreceive hcommits ⟨hend.ms, hend.shared⟩
  | error err =>
      obtain ⟨rfl, -⟩ := GoM.pure_ok_iff.mp hkeep
      cases hcommits
  | confirm data =>
      obtain ⟨rfl, rfl⟩ := GoM.pure_ok_iff.mp hkeep
      exact receivePacket_delivered hprepared hreceive hcommits hend

/-! ### The handlers -/

theorem map_ok {x : KeeperM ε α} {f : α → β} {b : β} (h : (f <$> x) w = (.ok b, w')) :
    ∃ y, x w = (.ok y, w') ∧ f y = b := by
  obtain ⟨y, w₁, hx, hret⟩ := GoM.bind_ok_iff.mp h
  obtain ⟨hy, rfl⟩ := GoM.pure_ok_iff.mp hret
  exact ⟨y, hx, hy.symm⟩

theorem contractOfPort_ok {portID : String}
    (h : (orError (k.contractOfPort portID) : KeeperM ε AccAddress) w = (.ok a, w')) :
    contractFromPortID k.codec portID = .ok a ∧ w' = w := by
  obtain ⟨hport, rfl⟩ := orError_ok_iff.mp h
  exact ⟨mapError_eq_ok hport, rfl⟩

theorem validateSender_ok {codec : AddressCodec} {contractAddr senderAddr : String}
    (h : validateSender codec contractAddr senderAddr = .ok a) :
    codec.accAddressFromBech32 contractAddr = .ok a ∧
      codec.accAddressFromBech32 senderAddr = .ok a := by
  obtain ⟨c, hc, h₁⟩ := except_bind_ok_iff.mp h
  obtain ⟨sender, hs, h₂⟩ := except_bind_ok_iff.mp h₁
  split at h₂
  · rename_i heq
    cases h₂
    exact ⟨mapError_eq_ok hc, heq ▸ mapError_eq_ok hs⟩
  · cases h₂

theorem onChanOpenInit_delivered {order : ChannelOrder} {hops : List String}
    {portID channelID : String} {counterparty : Counterparty} {version accepted : String}
    (h : k.onChanOpenInit lib ctx order hops portID channelID counterparty version w =
      (.ok accepted, w')) :
    ∃ a, contractFromPortID k.codec portID = .ok a ∧
      Delivered k m lib ctx a .ibcChannelOpen none w w' ∧ accepted ≠ "" := by
  obtain ⟨_, w₁, hparams, h₁⟩ := GoM.bind_ok_iff.mp h
  obtain ⟨-, rfl⟩ := orError_ok_iff.mp hparams
  obtain ⟨a, w₂, hport, h₂⟩ := GoM.bind_ok_iff.mp h₁
  obtain ⟨haddr, rfl⟩ := contractOfPort_ok hport
  obtain ⟨channel, w₃, hchannel, h₃⟩ := GoM.bind_ok_iff.mp h₂
  obtain ⟨-, rfl⟩ := orPanic_ok_iff.mp hchannel
  obtain ⟨returned, w₄, hopen, h₄⟩ := GoM.bind_ok_iff.mp h₃
  refine ⟨a, haddr, ?_⟩
  split at h₄
  · obtain ⟨_, w₅, hensure, hret⟩ := GoM.bind_ok_iff.mp h₄
    obtain ⟨hne, rfl⟩ := GoM.ensure_ok_iff.mp hensure
    obtain ⟨rfl, rfl⟩ := GoM.pure_ok_iff.mp hret
    exact ⟨.accepted _ rfl rfl (onOpenChannel_accepted hopen), hne⟩
  · rename_i hne
    obtain ⟨rfl, rfl⟩ := GoM.pure_ok_iff.mp h₄
    exact ⟨.accepted _ rfl rfl (onOpenChannel_accepted hopen), hne⟩

theorem onChanOpenTry_delivered {order : ChannelOrder} {hops : List String}
    {portID channelID : String} {counterparty : Counterparty} {counterpartyVersion version : String}
    (h : k.onChanOpenTry lib ctx order hops portID channelID counterparty counterpartyVersion w =
      (.ok version, w')) :
    ∃ a, contractFromPortID k.codec portID = .ok a ∧
      Delivered k m lib ctx a .ibcChannelOpen none w w' := by
  obtain ⟨_, w₁, hparams, h₁⟩ := GoM.bind_ok_iff.mp h
  obtain ⟨-, rfl⟩ := orError_ok_iff.mp hparams
  obtain ⟨a, w₂, hport, h₂⟩ := GoM.bind_ok_iff.mp h₁
  obtain ⟨haddr, rfl⟩ := contractOfPort_ok hport
  obtain ⟨channel, w₃, hchannel, h₃⟩ := GoM.bind_ok_iff.mp h₂
  obtain ⟨-, rfl⟩ := orPanic_ok_iff.mp hchannel
  obtain ⟨returned, w₄, hopen, hret⟩ := GoM.bind_ok_iff.mp h₃
  obtain ⟨-, rfl⟩ := GoM.pure_ok_iff.mp hret
  exact ⟨a, haddr, .accepted _ rfl rfl (onOpenChannel_accepted hopen)⟩

theorem channelCallback_delivered {portID channelID : String} {edit : Channel → Channel}
    {callback : AccAddress → IBCChannel → KeeperScript ε C Unit} {u : Unit}
    (hcallback : ∀ a channel w₁, Prepared lib w w₁ →
      (callback a channel).run (k.handler m) w₁ = (.ok u, w') →
        Delivered k m lib ctx a entry none w w')
    (h : k.channelCallback lib (k.handler m) portID channelID edit callback w = (.ok u, w')) :
    ∃ a, contractFromPortID k.codec portID = .ok a ∧ Delivered k m lib ctx a entry none w w' := by
  obtain ⟨a, w₁, hport, h₁⟩ := GoM.bind_ok_iff.mp h
  obtain ⟨haddr, rfl⟩ := contractOfPort_ok hport
  obtain ⟨found, w₂, hchannel, h₂⟩ := GoM.bind_ok_iff.mp h₁
  obtain ⟨channelInfo, w₃, hfound, h₃⟩ := GoM.bind_ok_iff.mp h₂
  obtain ⟨-, rfl⟩ := GoM.ofOption_ok_iff.mp hfound
  obtain ⟨version, w₄, hversion, h₄⟩ := GoM.bind_ok_iff.mp h₃
  obtain ⟨appVersion, w₅, hfound', h₅⟩ := GoM.bind_ok_iff.mp h₄
  obtain ⟨-, rfl⟩ := GoM.ofOption_ok_iff.mp hfound'
  obtain ⟨channel, w₆, hshown, hcall⟩ := GoM.bind_ok_iff.mp h₅
  obtain ⟨-, rfl⟩ := orPanic_ok_iff.mp hshown
  exact ⟨a, haddr, hcallback a channel w₆ (.channel hchannel hversion) hcall⟩

/-- A callback of IBC without data, whatever its errors are wrapped with. -/
theorem wrappedCallback_delivered {port : ContractInfo → String} {input : VMInput}
    {wrap : GoError → GoError} {u : Unit} (hprepared : Prepared lib w w₀)
    (hport : ∀ info, port info = input.entryPoint.port info)
    (h : GoM.mapError wrap ((k.basicCallback port input ctx a).run (k.handler m)) w₀ =
      (.ok u, w')) : Delivered k m lib ctx a input.entryPoint none w w' :=
  basicCallback_delivered hprepared hport (GoM.mapError_ok_iff.mp h)

/-- A handler that finds its contract and calls it back. -/
theorem addressed_delivered {x : Except GoError AccAddress} {f : AccAddress → KeeperM ε Unit}
    {u : Unit} (hcall : ∀ a, f a w = (.ok u, w') → Delivered k m lib ctx a entry none w w')
    (h : (orError x >>= f) w = (.ok u, w')) :
    ∃ a, x = .ok a ∧ Delivered k m lib ctx a entry none w w' := by
  obtain ⟨a, w₁, hx, h₁⟩ := GoM.bind_ok_iff.mp h
  obtain ⟨ha, rfl⟩ := orError_ok_iff.mp hx
  exact ⟨a, ha, hcall a h₁⟩

theorem ibcReceivePacketCallback_delivered {packet : Packet} {ack : Option Acknowledgement}
    {contractAddress version : String} {u : Unit}
    (h : k.ibcReceivePacketCallback lib (k.handler m) ctx packet ack contractAddress version w =
      (.ok u, w')) :
    ∃ a, k.codec.accAddressFromBech32 contractAddress = .ok a ∧
      Delivered k m lib ctx a .ibcDestinationCallback none w w' := by
  obtain ⟨a, w₁, haddr, h₁⟩ := GoM.bind_ok_iff.mp h
  obtain ⟨ha, rfl⟩ := orError_ok_iff.mp haddr
  obtain ⟨transferPort, w₂, hport, h₂⟩ := GoM.bind_ok_iff.mp h₁
  obtain ⟨given, w₃, hack, h₃⟩ := GoM.bind_ok_iff.mp h₂
  obtain ⟨-, rfl⟩ := GoM.ofOptionPanic_ok_iff.mp hack
  obtain ⟨transfer, w₄, htransfer, hcall⟩ := GoM.bind_ok_iff.mp h₃
  obtain ⟨-, rfl⟩ := orError_ok_iff.mp htransfer
  exact ⟨a, mapError_eq_ok ha, wrappedCallback_delivered (.port hport) (fun _ => rfl) hcall⟩

theorem sendPacket2_delivered {sourceClient destinationClient : String} {sequence : UInt64}
    {payload : IBC2Payload} {signer : AccAddress} {u : Unit}
    (h : k.sendPacket2 lib (k.handler m) ctx sourceClient destinationClient sequence payload signer
      w = (.ok u, w')) :
    contractFromPortID2 k.codec k.hrp payload.sourcePort = .ok signer ∧
      Delivered k m lib ctx signer .ibc2PacketSend none w w' := by
  obtain ⟨a, w₁, haddr, h₁⟩ := GoM.bind_ok_iff.mp h
  obtain ⟨hport, rfl⟩ := mustSucceed_ok haddr
  obtain ⟨_, w₂, hensure, hcall⟩ := GoM.bind_ok_iff.mp h₁
  obtain ⟨rfl, rfl⟩ := GoM.ensure_ok_iff.mp hensure
  exact ⟨mapError_eq_ok hport, wrappedCallback_delivered .here (fun _ => rfl) hcall⟩

theorem recvPacket_delivered {packet : Packet} {relayer : AccAddress} {ack : Keeper.PacketAck}
    (h : k.recvPacket lib.toIBCLib (k.handler m) ctx packet relayer w = (.ok ack, w'))
    (hcommits : Keeper.PacketAck.commits ack = true) :
    ∃ a, contractFromPortID k.codec packet.destinationPort = .ok a ∧
      Delivered k m lib ctx a .ibcPacketReceive (keptPacket packet ack) w w' := by
  obtain ⟨a, w₁, haddr, hrun, hms, hshared⟩ := recvPacket_run h hcommits
  refine ⟨a, haddr, ?_⟩
  rw [← convertPacket_newIBCPacket packet]
  exact onRecvPacket_delivered .received hrun hcommits ⟨hms, hshared⟩

/-- If the state is kept, it is that of the part of `OnRecvIBC2Packet` that may fail. -/
theorem recvPacket2_run {ctx : SdkContext} {sourceClient destinationClient : String}
    {sequence : UInt64} {payload : IBC2Payload} {relayer : AccAddress}
    {out : Keeper.RecvPacketResult} {handler : Response SdkContext C → KeeperM ε (Option Bytes)}
    (h : k.recvPacket2 lib.toIBCLib handler ctx sourceClient destinationClient sequence
      payload relayer w = (.ok out, w'))
    (hcommits : Keeper.RecvPacketResult.commits out = true) :
    ∃ a msg w₁, contractFromPortID2 k.codec k.hrp payload.destinationPort = .ok a ∧
      (k.receiveIBC2Packet ctx a msg).run handler { w with events := [] } = (.ok out, w₁) ∧
      w'.ms = w₁.ms ∧ w'.shared = w₁.shared := by
  obtain ⟨a, w₁, haddr, h₁⟩ := GoM.bind_ok_iff.mp h
  obtain ⟨hport, rfl⟩ := mustSucceed_ok haddr
  obtain ⟨⟨result, events⟩, w₂, hown, h₂⟩ := GoM.bind_ok_iff.mp h₁
  obtain ⟨w₃, hrun, rfl⟩ := ownEvents_run hown
  obtain ⟨_, w₄, hpassed, h₃⟩ := GoM.bind_ok_iff.mp h₂
  obtain ⟨_, w₅, hemit, h₄⟩ := GoM.bind_ok_iff.mp h₃
  obtain rfl := emitEvents_ok_iff.mp hemit
  obtain ⟨rfl, rfl⟩ := GoM.pure_ok_iff.mp h₄
  refine ⟨a,
    lib.receiveMsg2 ⟨payload, k.codec.string relayer, sourceClient, destinationClient, sequence⟩,
    w₃, mapError_eq_ok hport, ?_, ?_⟩
  · unfold Keeper.onRecvIBC2Packet at hrun
    split at hrun
    · cases hrun
      cases hcommits
    · exact hrun
  · split at hpassed
    · obtain rfl := emitEvents_ok_iff.mp hpassed
      exact ⟨rfl, rfl⟩
    · obtain ⟨-, rfl⟩ := GoM.pure_ok_iff.mp hpassed
      exact ⟨rfl, rfl⟩

theorem recvPacket2_delivered {sourceClient destinationClient : String} {sequence : UInt64}
    {payload : IBC2Payload} {relayer : AccAddress} {out : Keeper.RecvPacketResult}
    (h : k.recvPacket2 lib.toIBCLib (k.handler m) ctx sourceClient destinationClient
      sequence payload relayer w = (.ok out, w'))
    (hcommits : Keeper.RecvPacketResult.commits out = true) :
    ∃ a, contractFromPortID2 k.codec k.hrp payload.destinationPort = .ok a ∧
      Delivered k m lib ctx a .ibc2PacketReceive none w w' := by
  obtain ⟨a, msg, w₁, haddr, hrun, hms, hshared⟩ := recvPacket2_run h hcommits
  exact ⟨a, haddr, receiveIBC2Packet_delivered .received hrun hcommits ⟨hms, hshared⟩⟩

/-- A packet of another module that is being sent is only checked. -/
theorem ibcSendPacketCallback_ok {contractAddress sender : String} {u : Unit}
    (h : k.ibcSendPacketCallback contractAddress sender w = (.ok u, w')) :
    ∃ a, k.codec.accAddressFromBech32 contractAddress = .ok a ∧
      k.codec.accAddressFromBech32 sender = .ok a ∧ w' = w := by
  obtain ⟨a, w₁, hsender, hret⟩ := GoM.bind_ok_iff.mp h
  obtain ⟨haddr, rfl⟩ := orError_ok_iff.mp hsender
  obtain ⟨-, rfl⟩ := GoM.pure_ok_iff.mp hret
  obtain ⟨hcontract, hsame⟩ := validateSender_ok haddr
  exact ⟨a, hcontract, hsame, rfl⟩

/-- An event that leads to an entry point is delivered to the contract it is meant for. -/
theorem IBCEvent.delivered {event : IBCEvent} {out : IBCOutcome}
    (h : event.run k m lib w = (.ok out, w')) (hcommits : out.commits = true)
    (hentry : event.entryPoint? = some entry) :
    ∃ a, event.Addresses k a ∧ Delivered k m lib event.ctx a entry (event.keeps out) w w' := by
  cases event with
  | chanOpenInit ctx order hops portID channelID counterparty version =>
      cases hentry
      obtain ⟨accepted, hrun, rfl⟩ := map_ok h
      obtain ⟨a, haddr, hdelivered, -⟩ := onChanOpenInit_delivered (m := m) hrun
      exact ⟨a, haddr, hdelivered⟩
  | chanOpenTry ctx order hops portID channelID counterparty version =>
      cases hentry
      obtain ⟨accepted, hrun, rfl⟩ := map_ok h
      exact onChanOpenTry_delivered hrun
  | chanOpenAck ctx portID channelID counterpartyChannelID counterpartyVersion =>
      cases hentry
      obtain ⟨u, hrun, rfl⟩ := map_ok h
      exact channelCallback_delivered (fun _ _ _ hprepared hcall =>
        basicCallback_delivered hprepared (fun _ => rfl) hcall) hrun
  | chanOpenConfirm ctx portID channelID | chanCloseInit ctx portID channelID
  | chanCloseConfirm ctx portID channelID =>
      cases hentry
      obtain ⟨u, hrun, rfl⟩ := map_ok h
      exact channelCallback_delivered (fun _ _ _ hprepared hcall =>
        basicCallback_delivered hprepared (fun _ => rfl) hcall) hrun
  | recvPacket ctx packet relayer =>
      cases hentry
      obtain ⟨ack, hrun, rfl⟩ := map_ok h
      obtain ⟨a, haddr, hdelivered⟩ := recvPacket_delivered hrun hcommits
      refine ⟨a, haddr, ?_⟩
      cases ack with
      | later => exact hdelivered
      | error err => exact hdelivered
      | confirm data => exact hdelivered
  | acknowledgementPacket ctx packet acknowledgement relayer | timeoutPacket ctx packet relayer =>
      cases hentry
      obtain ⟨u, hrun, rfl⟩ := map_ok h
      obtain ⟨a, haddr, hdelivered⟩ := addressed_delivered
        (fun _ hcall => wrappedCallback_delivered .here (fun _ => rfl) hcall) hrun
      exact ⟨a, mapError_eq_ok haddr, hdelivered⟩
  | sendPacketCallback ctx contractAddress sender => cases hentry
  | acknowledgementPacketCallback ctx packet acknowledgement relayer contractAddress sender
  | timeoutPacketCallback ctx packet relayer contractAddress sender =>
      cases hentry
      obtain ⟨u, hrun, rfl⟩ := map_ok h
      obtain ⟨a, haddr, hdelivered⟩ := addressed_delivered
        (fun _ hcall => wrappedCallback_delivered .here (fun _ => rfl) hcall) hrun
      exact ⟨a, validateSender_ok haddr, hdelivered⟩
  | receivePacketCallback ctx packet ack contractAddress version =>
      cases hentry
      obtain ⟨u, hrun, rfl⟩ := map_ok h
      exact ibcReceivePacketCallback_delivered hrun
  | sendPacket2 ctx sourceClient destinationClient sequence payload signer =>
      cases hentry
      obtain ⟨u, hrun, rfl⟩ := map_ok h
      obtain ⟨haddr, hdelivered⟩ := sendPacket2_delivered hrun
      exact ⟨signer, ⟨haddr, rfl⟩, hdelivered⟩
  | recvPacket2 ctx sourceClient destinationClient sequence payload relayer =>
      cases hentry
      obtain ⟨result, hrun, rfl⟩ := map_ok h
      exact recvPacket2_delivered hrun hcommits
  | timeoutPacket2 ctx sourceClient destinationClient sequence payload relayer
  | acknowledgementPacket2 ctx sourceClient destinationClient acknowledgement payload relayer =>
      cases hentry
      obtain ⟨u, hrun, rfl⟩ := map_ok h
      obtain ⟨a, haddr, hdelivered⟩ := addressed_delivered
        (fun _ hcall => wrappedCallback_delivered .here (fun _ => rfl) hcall) hrun
      exact ⟨a, mapError_eq_ok haddr, hdelivered⟩

/-- The other event leaves everything as it is. -/
theorem IBCEvent.checked {event : IBCEvent} {out : IBCOutcome}
    (h : event.run k m lib w = (.ok out, w')) (hentry : event.entryPoint? = none) :
    (∃ a, event.Addresses k a) ∧ w' = w := by
  cases event with
  | sendPacketCallback ctx contractAddress sender =>
      obtain ⟨u, hrun, -⟩ := map_ok h
      obtain ⟨a, hcontract, hsender, rfl⟩ := ibcSendPacketCallback_ok hrun
      exact ⟨⟨a, hcontract, hsender⟩, rfl⟩
  | _ => cases hentry

end Delivery

/-- **Every event that is accepted is delivered to the contract it is meant for.**  Whatever
`ibc-go` tells the module, suppose that the handler returns no error and its answer makes `ibc-go`
keep the state.  An event that leads to an entry point leads to one contract: the owner of the port,
or the one that the callback names.  That contract is stored, its code is called there and answers,
and what happens beyond its storage, in this and in other modules, is the handling of the messages
it answers with, from its own port; a packet is kept exactly if it was received and is to be
acknowledged later.  The other event, a packet of another module that is being sent, changes
nothing, and is accepted only if the callback names its sender.  A channel that is opened from here
has a version. -/
theorem ibc_events_delivered (k : Keeper ε C) (m : Messenger ε C) (lib : IBCModuleLib ε)
    (event : IBCEvent) (w w' : World (Multistore ε) Shared) (out : IBCOutcome)
    (h : event.run k m lib w = (.ok out, w')) (hcommits : out.commits = true) :
    (∀ entry, event.entryPoint? = some entry →
      ∃ a, event.Addresses k a ∧ (w.ms.wasm.getContractInfo a).isSome ∧
        Delivered k m lib event.ctx a entry (event.keeps out) w w') ∧
    (event.entryPoint? = none → (∃ a, event.Addresses k a) ∧ w' = w) ∧
    ∀ ctx order hops portID channelID counterparty version,
      event = .chanOpenInit ctx order hops portID channelID counterparty version →
        out ≠ .version "" := by
  refine ⟨fun entry hentry => ?_, fun hentry => IBCEvent.checked h hentry, ?_⟩
  · obtain ⟨a, haddr, hdelivered⟩ := IBCEvent.delivered h hcommits hentry
    exact ⟨a, haddr, hdelivered.stored, hdelivered⟩
  · rintro ctx order hops portID channelID counterparty version rfl rfl
    obtain ⟨accepted, hrun, hversion⟩ := map_ok h
    obtain ⟨a, -, -, hne⟩ := onChanOpenInit_delivered (m := m) hrun
    exact hne (IBCOutcome.version.inj hversion)

/-! ### A packet to be acknowledged later -/

/-- The messages to contracts carry nothing here, and there are no channels. -/
def quietLib : IBCModuleLib Unit where
  toIBCLib := laterLib
  parseChannelSequence := fun _ => .ok 0
  getChannel := fun _ _ => pure none
  getAppVersion := fun _ _ => pure none
  getPort := pure "transfer"
  -- the data is the trace of the denomination, one hop for each byte
  unmarshalPacketData := fun data _ => .ok
    ⟨⟨"coin", data.map fun b => ⟨"transfer", if b = 0 then "channel-0" else "channel-1"⟩⟩, "1",
      markedText ibcCreator, markedText ibcCreator⟩
  ibcDenom := fun d => String.join (d.trace.map (·.channelID)) ++ d.base
  openMsg := fun _ => ⟨[], 0⟩
  connectMsg := fun _ => ⟨[], 0⟩
  closeMsg := fun _ => ⟨[], 0⟩
  ackMsg := fun _ => ⟨[], 0⟩
  timeoutMsg := fun _ => ⟨[], 0⟩
  sourceCallbackMsg := fun _ => ⟨[], 0⟩
  destinationCallbackMsg := fun _ => ⟨[], 0⟩
  sendMsg2 := fun _ => ⟨[], 0⟩
  timeoutMsg2 := fun _ => ⟨[], 0⟩
  ackMsg2 := fun _ => ⟨[], 0⟩

/-- The packet is received. -/
def laterEvent : KeeperM Unit IBCOutcome :=
  (IBCEvent.recvPacket ibcCtx laterPacket ibcCreator).run laterKeeper sendMessenger quietLib

/-- It is delivered to the contract of the port, and kept. -/
theorem ibc_events_delivered_later :
    Delivered laterKeeper sendMessenger quietLib ibcCtx ibcContract .ibcPacketReceive
      (some laterPacket) laterWorld (laterEvent laterWorld).2 := by
  obtain ⟨hdelivered, -, -⟩ := ibc_events_delivered laterKeeper sendMessenger quietLib
    (.recvPacket ibcCtx laterPacket ibcCreator) laterWorld _ (.ack .later)
    (GoM.ok_of_toOption (x := laterEvent) (by decide +kernel)) rfl
  obtain ⟨a, haddr, -, hdelivered⟩ := hdelivered _ rfl
  obtain rfl : a = ibcContract :=
    Except.ok.inj (haddr.symm.trans (by decide +kernel : _ = Except.ok ibcContract))
  exact hdelivered

/-! ## Denominations over a channel -/

/-- The packet goes from one end of a channel to the other. -/
structure Packet.Crosses (packet : Packet) (src dst : Hop) : Prop where
  source : (⟨packet.sourcePort, packet.sourceChannel⟩ : Hop) = src
  destination : (⟨packet.destinationPort, packet.destinationChannel⟩ : Hop) = dst

/-- The denomination on the other side. -/
def Denom.across (src dst : Hop) (d : Denom) : Denom :=
  if d.trace.head? = some src then { d with trace := d.trace.tail }
  else { d with trace := dst :: d.trace }

theorem receivedDenom_eq {packet : Packet} {src dst : Hop}
    (h : packet.Crosses src dst) (d : Denom) : receivedDenom packet d = d.across src dst := by
  unfold receivedDenom Denom.across Denom.hasPrefix
  rw [h.source, h.destination]
  simp

/-- **There and back again**: a denomination survives the way to the other side and back exactly if
its last two hops are not one way and back over the channel already. -/
theorem across_across_iff {src dst : Hop} {d : Denom} :
    (d.across src dst).across dst src = d ↔ ¬ [src, dst] <+: d.trace := by
  obtain ⟨base, trace⟩ := d
  cases trace with
  | nil => simp [Denom.across]
  | cons first rest =>
      by_cases hfirst : first = src
      · subst hfirst
        cases rest with
        | nil => simp [Denom.across]
        | cons second rest =>
            by_cases hsecond : second = dst
            · subst hsecond
              have hlength : rest ≠ first :: second :: rest := by
                intro heq
                have hcount := congrArg List.length heq
                simp only [List.length_cons] at hcount
                omega
              simp [Denom.across, hlength]
            · have hsecond' : dst ≠ second := fun h => hsecond h.symm
              simp [Denom.across, hsecond, hsecond']
      · have hfirst' : src ≠ first := fun h => hfirst h.symm
        simp [Denom.across, hfirst, hfirst']

/-- On the other side the same holds the other way round. -/
theorem across_fresh {src dst : Hop} {d : Denom} (h : ¬ [src, dst] <+: d.trace) :
    ¬ [dst, src] <+: (d.across src dst).trace := by
  have hback := across_across_iff.mpr h
  refine across_across_iff.mp ?_
  rw [hback]

/-- A chain with its handler. -/
structure TransferEnd (ε C : Type) where
  keeper : Keeper ε C
  lib : IBCModuleLib ε

/-- **A journey over a channel**: tokens of the denomination `d` are sent from one side to the other
and back, any number of times, and the receiving contract is told of each transfer. -/
inductive Journey (version : String) : TransferEnd ε C → TransferEnd ε C → Hop → Hop → Denom →
    List IBCTransferCallback → Prop
  | arrived {near far src dst d} : Journey version near far src dst d []
  | hop {near far src dst d packet data told rest} : packet.Crosses src dst →
      far.lib.unmarshalPacketData packet.data version = .ok data → data.denom = d →
      far.keeper.transferCallback far.lib packet version = .ok told →
      Journey version far near dst src (receivedDenom packet d) rest →
      Journey version near far src dst d (told :: rest)

theorem transferCallback_funds {k : Keeper ε C} {lib : IBCModuleLib ε} {packet : Packet}
    {version : String} {data : TransferData} {told : IBCTransferCallback}
    (hdata : lib.unmarshalPacketData packet.data version = .ok data)
    (h : k.transferCallback lib packet version = .ok told) :
    told.funds =
      [{ denom := lib.ibcDenom (receivedDenom packet data.denom), amount := data.amount }] := by
  obtain ⟨data', hdata', h₁⟩ := except_bind_ok_iff.mp h
  cases hdata.symm.trans (mapError_eq_ok hdata')
  obtain ⟨receiver, -, hret⟩ := except_bind_ok_iff.mp h₁
  cases hret
  rfl

/-- **Contracts are told two denominations in turn.**  However often tokens go back and forth over a
channel, the contracts on the far side are always told the same denomination, and so are those on
the near side: the one that the tokens had at the start. -/
theorem transfer_denoms_alternate (version : String) (near far : TransferEnd ε C) (src dst : Hop)
    (d : Denom) (told : List IBCTransferCallback) (hfresh : ¬ [src, dst] <+: d.trace)
    (h : Journey version near far src dst d told) (i : ℕ) (leg : IBCTransferCallback)
    (hleg : told[i]? = some leg) :
    leg.funds.map (·.denom) = [if i % 2 = 0 then far.lib.ibcDenom (d.across src dst)
      else near.lib.ibcDenom d] := by
  induction h generalizing i with
  | arrived => cases hleg
  | @hop near far src dst d packet data first rest hcrosses hdata hdenom htold _ ih =>
      rw [receivedDenom_eq hcrosses] at ih
      cases i with
      | zero =>
          cases hleg
          rw [transferCallback_funds hdata htold, hdenom, receivedDenom_eq hcrosses]
          rfl
      | succ i =>
          rw [ih (across_fresh hfresh) i hleg, across_across_iff.mpr hfresh]
          rcases Nat.mod_two_eq_zero_or_one i with heven | hodd
          · have hsucc : (i + 1) % 2 = 1 := by omega
            rw [heven, hsucc]
            rfl
          · have hsucc : (i + 1) % 2 = 0 := by omega
            rw [hodd, hsucc]
            rfl

/-! ### Tokens that go and come back -/

/-- The chain on both sides. -/
def quietEnd : TransferEnd Unit Unit := ⟨laterKeeper, quietLib⟩

/-- From the first channel to the second one, and back. -/
def thereAndBack : List Packet :=
  [⟨1, "transfer", "channel-0", "transfer", "channel-1", [], (0, 0), 0⟩,
    ⟨1, "transfer", "channel-1", "transfer", "channel-0", [1], (0, 0), 0⟩]

/-- What the contracts are told. -/
def toldThereAndBack : List IBCTransferCallback :=
  [⟨markedText ibcCreator, markedText ibcCreator, [{ denom := "channel-1coin", amount := "1" }]⟩,
    ⟨markedText ibcCreator, markedText ibcCreator, [{ denom := "coin", amount := "1" }]⟩]

/-- The tokens have their own name again. -/
theorem transfer_denoms_alternate_back :
    Journey "ics20-1" quietEnd quietEnd ⟨"transfer", "channel-0"⟩ ⟨"transfer", "channel-1"⟩
        ⟨"coin", []⟩ toldThereAndBack ∧
      (toldThereAndBack[1].funds.map (·.denom)) = ["coin"] := by
  have hjourney : Journey "ics20-1" quietEnd quietEnd ⟨"transfer", "channel-0"⟩
      ⟨"transfer", "channel-1"⟩ ⟨"coin", []⟩ toldThereAndBack :=
    .hop (show thereAndBack[0].Crosses _ _ from ⟨rfl, rfl⟩) rfl rfl rfl
      (.hop (show thereAndBack[1].Crosses _ _ from ⟨rfl, rfl⟩) rfl rfl rfl .arrived)
  exact ⟨hjourney,
    transfer_denoms_alternate "ics20-1" quietEnd quietEnd _ _ _ _ (by decide) hjourney 1 _ rfl⟩

end Wasmd
