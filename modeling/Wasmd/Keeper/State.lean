import Wasmd.Keeper.Dispatch
import Wasmd.Lib.Coins
import Wasmd.Types.Contract
import Wasmd.Types.GasRegister

/-!
# The keeper and the state it works on

* `WasmStore` — the store of the module.  It is split by the first byte of the keys, which differs
  from family to family, and holds the values decoded; the keys are the full byte strings of
  `keys.go`.
* `Multistore`, `Shared` — the store next to the state of the other modules, and what hangs on
  pointers or lies on disk and is therefore not rolled back with a failed call: the contracts seen
  in the transaction, the code files of the VM and its pinned codes.
* `ContractRun` — what a contract does in the VM: it computes, reads and writes its own storage,
  queries the chain, and returns or aborts.
* `Keeper` — the configuration of the keeper and the components around it.
-/

namespace Wasmd

open ByteStore Effects Gas

/-! ## Packets -/

/-- `wasmvmtypes.IBCEndpoint`. -/
structure IBCEndpoint where
  portID : String
  channelID : String
  deriving DecidableEq, Repr

/-- `wasmvmtypes.IBCPacket`. -/
structure IBCPacket where
  data : Bytes
  src : IBCEndpoint
  dest : IBCEndpoint
  sequence : UInt64
  /-- `Timeout.Block`: revision and height. -/
  timeoutBlock : Option (UInt64 × UInt64)
  timeoutTimestamp : UInt64
  deriving DecidableEq, Repr

/-- `channeltypes.Packet`. -/
structure Packet where
  sequence : UInt64
  sourcePort : String
  sourceChannel : String
  destinationPort : String
  destinationChannel : String
  data : Bytes
  /-- Revision number and height. -/
  timeoutHeight : UInt64 × UInt64
  timeoutTimestamp : UInt64
  deriving DecidableEq, Repr

/-- `convertPacket`. -/
def convertPacket (packet : IBCPacket) : Packet where
  sequence := packet.sequence
  sourcePort := packet.src.portID
  sourceChannel := packet.src.channelID
  destinationPort := packet.dest.portID
  destinationChannel := packet.dest.channelID
  data := packet.data
  timeoutHeight := packet.timeoutBlock.getD (0, 0)
  timeoutTimestamp := packet.timeoutTimestamp

/-! ## State -/

/-- The store of the module, one field for each first byte of a key. -/
structure WasmStore where
  /-- `0x01`: codes by id. -/
  codes : KVStore CodeInfo
  /-- `0x02`: contracts by address. -/
  contracts : KVStore ContractInfo
  /-- `0x03`: the storage of the contracts. -/
  contractState : KVStore Bytes
  /-- `0x04`: the sequences. -/
  sequences : KVStore Bytes
  /-- `0x05`: the history of the contracts. -/
  history : KVStore ContractCodeHistoryEntry
  /-- `0x06`: contracts by code; the values are empty. -/
  codeIndex : KVStore Unit
  /-- `0x07`: pinned codes; the value is a single byte. -/
  pinned : KVStore Unit
  /-- `0x09`: contracts by creator; the values are empty. -/
  creatorIndex : KVStore Unit
  /-- `0x10`: the parameters. -/
  params : Option Params
  /-- `0x11`: packets waiting for their acknowledgement. -/
  asyncAcks : KVStore Packet
  /-- Bytes under other keys, or under keys of the families above that hold records; only sequences
  of a genesis state are written there. -/
  raw : KVStore Bytes

/-- The store before anything is written. -/
def WasmStore.empty : WasmStore := ⟨∅, ∅, ∅, ∅, ∅, ∅, ∅, ∅, none, ∅, ∅⟩

/-- An acknowledgement handed to `ics4Wrapper.WriteAcknowledgement`, and who handed it. -/
structure Handover where
  contract : AccAddress
  /-- The port the messages of the contract are sent from. -/
  port : String
  /-- The channel and the sequence the contract named. -/
  channel : String
  sequence : UInt64
  packet : Packet
  ack : Bytes
  deriving DecidableEq

/-- The multistore: the store of the module, the acknowledgements handed to the IBC module, oldest
first, and the state `ε` of all others. -/
structure Multistore (ε : Type) where
  wasm : WasmStore
  acks : List Handover
  ext : ε

/-- The VM: code files by checksum, and the checksums kept in memory. -/
structure VMState where
  codes : KVStore Bytes
  pinned : List Bytes

/-- What a failed call leaves behind. -/
structure Shared where
  /-- `types.TxContracts`: the checksums of the contracts seen in this transaction. -/
  txContracts : Option (List Bytes)
  vm : VMState

/-- A call of the keeper. -/
abbrev KeeperM (ε : Type) := CtxM (Multistore ε) Shared

/-- A call on another module, which sees its own state only. -/
abbrev ExtM (ε : Type) := CtxM ε Unit

variable {ε C α ρ : Type}

/-- A call on another module as a call of the keeper. -/
def onExt (x : ExtM ε α) : KeeperM ε α := fun w =>
  ((x ⟨w.ms.ext, w.gas, w.events, ()⟩).1,
    { w with
      ms := { w.ms with ext := (x ⟨w.ms.ext, w.gas, w.events, ()⟩).2.ms }
      gas := (x ⟨w.ms.ext, w.gas, w.events, ()⟩).2.gas
      events := (x ⟨w.ms.ext, w.gas, w.events, ()⟩).2.events })

/-- A look at the store. -/
def readStore (f : WasmStore → α) : KeeperM ε α := GoM.gets fun w => f w.ms.wasm

/-- A change of the store. -/
def writeStore (f : WasmStore → WasmStore) : KeeperM ε Unit :=
  GoM.modify fun w => { w with ms := { w.ms with wasm := f w.ms.wasm } }

/-- `EventManager().EmitEvents`. -/
def emitEvents (evts : List Event) : KeeperM ε Unit :=
  GoM.modify fun w => { w with events := w.events ++ evts }

/-- A computation that may panic. -/
def orPanic (x : Except Panic α) : KeeperM ε α := GoM.ofExcept (x.mapError .panic)

/-- A computation that may fail. -/
def orError (x : Except GoError α) : KeeperM ε α := GoM.ofExcept (x.mapError .error)

/-! ### What a successful step says -/

section Inversion

variable {w w' : World (Multistore ε) Shared} {a : α} {u : Unit}

theorem readStore_ok_iff {f : WasmStore → α} :
    (readStore f : KeeperM ε α) w = (.ok a, w') ↔ a = f w.ms.wasm ∧ w' = w :=
  GoM.gets_ok_iff

theorem writeStore_ok_iff {f : WasmStore → WasmStore} :
    (writeStore f : KeeperM ε Unit) w = (.ok u, w') ↔
      w' = { w with ms := { w.ms with wasm := f w.ms.wasm } } :=
  GoM.modify_ok_iff

theorem emitEvents_ok_iff {evts : List Event} :
    (emitEvents evts : KeeperM ε Unit) w = (.ok u, w') ↔
      w' = { w with events := w.events ++ evts } :=
  GoM.modify_ok_iff

theorem onExt_ok {x : ExtM ε α} (h : (onExt x : KeeperM ε α) w = (.ok a, w')) :
    x ⟨w.ms.ext, w.gas, w.events, ()⟩ = (.ok a, ⟨w'.ms.ext, w'.gas, w'.events, ()⟩) := by
  obtain ⟨hres, rfl⟩ := Prod.mk.inj h
  exact Prod.ext hres rfl

theorem orPanic_ok_iff {x : Except Panic α} :
    (orPanic x : KeeperM ε α) w = (.ok a, w') ↔ x = .ok a ∧ w' = w := by
  rw [orPanic, GoM.ofExcept_ok_iff, except_mapError_ok_iff]

theorem orError_ok_iff {x : Except GoError α} :
    (orError x : KeeperM ε α) w = (.ok a, w') ↔ x = .ok a ∧ w' = w := by
  rw [orError, GoM.ofExcept_ok_iff, except_mapError_ok_iff]

end Inversion

/-! ## Contracts in the VM -/

/-- The part of a contract's response the keeper looks at. -/
structure ContractResponse (C : Type) where
  messages : List (SubMsg C)
  attributes : List Attribute
  events : List Event
  /-- `Data`, or `Acknowledgement` of a received packet. -/
  data : Option Bytes
  deriving DecidableEq

/-- What a contract does in the VM until it ends with a result `ρ`. -/
inductive ContractRun (ρ : Type) where
  | ret (res : ρ)
  | abort (err : String)
  /-- Computation that costs `gas` of the VM. -/
  | compute (gas : UInt64) (next : ContractRun ρ)
  | get (key : Bytes) (next : Option Bytes → ContractRun ρ)
  | set (key value : Bytes) (next : ContractRun ρ)
  | remove (key : Bytes) (next : ContractRun ρ)
  /-- An iteration over the whole storage of the contract. -/
  | scan (next : List (Bytes × Bytes) → ContractRun ρ)
  | query (request : Bytes) (next : Except String Bytes → ContractRun ρ)

/-- An access to storage, with the data that decides what it costs. -/
inductive StorageAccess where
  | get (key : Bytes) (value : Option Bytes)
  | set (key value : Bytes)
  | remove (key : Bytes)
  | scan (entries : List (Bytes × Bytes))

/-- A message of IBC to a contract. -/
structure IBCMsg where
  payload : Bytes
  /-- `ExpectedJSONSize()`. -/
  expectedJSONSize : Nat

/-- `wasmvmtypes.IBCPacketReceiveMsg`. -/
structure IBCPacketReceiveMsg extends IBCMsg where
  packet : IBCPacket

/-- The entry points that answer with a contract response, and what they are called with beside
the environment. -/
inductive VMInput where
  | instantiate (sender : AccAddress) (funds : Coins.CoinSet) (msg : Bytes)
  | execute (sender : AccAddress) (funds : Coins.CoinSet) (msg : Bytes)
  | migrate (msg : Bytes) (sender : AccAddress) (oldMigrateVersion : Option UInt64)
  | sudo (msg : Bytes)
  | reply (reply : Reply)
  | ibcChannelConnect (msg : IBCMsg)
  | ibcChannelClose (msg : IBCMsg)
  | ibcPacketReceive (msg : IBCPacketReceiveMsg)
  | ibcPacketAck (msg : IBCMsg)
  | ibcPacketTimeout (msg : IBCMsg)
  | ibcSourceCallback (msg : IBCMsg)
  | ibcDestinationCallback (msg : IBCMsg)
  | ibc2PacketAck (msg : IBCMsg)
  | ibc2PacketReceive (msg : IBCMsg)
  | ibc2PacketTimeout (msg : IBCMsg)
  | ibc2PacketSend (msg : IBCMsg)

/-- `wasmvmtypes.AnalysisReport`. -/
structure AnalysisReport where
  hasIBCEntryPoints : Bool
  requiredCapabilities : String
  contractMigrateVersion : Option UInt64

/-- The VM.  A run is a function of the context, the code and the contract; a result that is
`none` is a nil pointer, and an error in it is the contract's own. -/
structure WasmVM (C : Type) where
  checksum : Bytes → Bytes
  /-- The check of `StoreCode` and `SimulateStoreCode`: the gas used and the verdict. -/
  compile : Bytes → UInt64 → UInt64 × Except String Unit
  /-- The check of `StoreCodeUnchecked`. -/
  compileUnchecked : Bytes → Except String Unit
  /-- `AnalyzeCode` of stored code. -/
  analyze : Bytes → Except String AnalysisReport
  /-- The verdict of `SyncPinnedCodes` on a list of checksums. -/
  pin : VMState → List Bytes → Except String Unit
  call : SdkContext → Bytes → AccAddress → VMInput →
    ContractRun (Option (Except String (ContractResponse C)))
  query : SdkContext → Bytes → AccAddress → Bytes → ContractRun (Except String Bytes)
  ibcChannelOpen : SdkContext → Bytes → AccAddress → IBCMsg →
    ContractRun (Option (Except String (Option String)))

/-! ## The keeper -/

/-- `sdk.AccountI`, as far as `instantiate` looks at it. -/
structure Account where
  sequence : UInt64
  pubKey : Option Bytes
  /-- The name of its Go type. -/
  type : String

/-- The keeper with the components around it. -/
structure Keeper (ε C : Type) where
  codec : AddressCodec
  /-- `GetBech32AccountAddrPrefix()`. -/
  hrp : String
  gasRegister : WasmGasRegister
  maxQueryStackSize : UInt32
  maxCallDepth : UInt32
  acceptedAccountTypes : List String
  propagateGovAuthorization : List AuthorizationPolicyAction
  authority : String
  /-- `sdk.ValidateAuthority`: of the context it reads the authority of the consensus parameters;
  it is given the authority of the keeper and the actor. -/
  sdkValidateAuthority : Option String → String → String → Except GoError Unit
  wasmVM : WasmVM C
  /-- What the SDK store charges for an access to contract storage. -/
  storageGas : StorageAccess → UInt64
  /-- What the VM says of a contract whose access to its storage panicked. -/
  storagePanic : String
  /-- `wasmVMQueryHandler.HandleQuery`; of what is not rolled back it may touch the contracts of
  the transaction. -/
  handleQuery : SdkContext → AccAddress → Bytes → CtxM (Multistore ε) (Option (List Bytes)) Bytes
  /-- `bank.TransferCoins`. -/
  transferCoins : AccAddress → AccAddress → Coins.CoinSet → ExtM ε Unit
  /-- `accountKeeper.GetAccount`. -/
  getAccount : AccAddress → ExtM ε (Option Account)
  /-- `accountKeeper.NewAccountWithAddress` and `SetAccount`. -/
  setNewAccount : AccAddress → ExtM ε Unit
  /-- `accountPruner.CleanupExistingAccount`. -/
  cleanupExistingAccount : Account → ExtM ε Bool
  /-- `address.Module` of the module, cut to `ContractAddrLen`. -/
  moduleAddress : Bytes → AccAddress
  moduleAddress_length : ∀ key, (moduleAddress key).bytes.length = 32
  /-- `ioutils.Uncompress`. -/
  uncompress : Bytes → Int → Except String Bytes
  /-- `strings.TrimSpace`. -/
  trimSpace : String → String
  /-- `json.Valid`. -/
  jsonValid : Bytes → Bool
  /-- `ValidateBasic` of an extension, if it has one, and `NewAnyWithValue`. -/
  packExtension : Bytes → Except GoError Bytes

/-! ### A plain chain

The components around the keeper at their simplest, to evaluate the model on concrete inputs: a
chain without other modules, and contracts that do nothing. -/

/-- The bytes as an address of 32 bytes; keys of 16 bytes are kept apart from all others. -/
def plainModuleAddress (key : Bytes) : AccAddress where
  bytes := (if key.length = 16 then 1 else 0) :: (key ++ List.replicate 31 0).take 31
  nonempty := List.cons_ne_nil _ _
  length_le := by
    rw [List.length_cons, List.length_take]
    omega

theorem length_plainModuleAddress (key : Bytes) : (plainModuleAddress key).bytes.length = 32 := by
  simp [plainModuleAddress]

/-- A VM whose contracts answer with an empty response. -/
def plainVM (C : Type) : WasmVM C where
  checksum code := code
  compile _ _ := (0, .ok ())
  compileUnchecked _ := .ok ()
  analyze _ := .ok ⟨false, "", none⟩
  pin _ _ := .ok ()
  call _ _ _ _ := .ret (some (.ok ⟨[], [], [], none⟩))
  query _ _ _ _ := .ret (.ok [])
  ibcChannelOpen _ _ _ _ := .ret (some (.ok none))

/-- The authority of the consensus parameters in the place of the keeper's, where it is set. -/
def plainValidateAuthority (consensus : Option String) (authority actor : String) :
    Except GoError Unit :=
  if actor = consensus.getD authority then .ok () else .error (.foreign "invalid authority")

/-- The keeper on a chain without other modules. -/
def plainKeeper (C : Type) : Keeper Unit C where
  codec := AddressTable.empty.codec
  hrp := "wasm"
  gasRegister := newDefaultWasmGasRegister
  maxQueryStackSize := 10
  maxCallDepth := 500
  acceptedAccountTypes := []
  propagateGovAuthorization := [.instantiate]
  authority := "gov"
  sdkValidateAuthority := plainValidateAuthority
  wasmVM := plainVM C
  storageGas _ := 1000
  storagePanic := "Panic in FFI call"
  handleQuery _ _ _ := GoM.failWith (.foreign "no query")
  transferCoins _ _ _ := pure ()
  getAccount _ := pure none
  setNewAccount _ := pure ()
  cleanupExistingAccount _ := pure false
  moduleAddress := plainModuleAddress
  moduleAddress_length := length_plainModuleAddress
  uncompress _ _ := .error "no archive"
  trimSpace s := s
  jsonValid _ := true
  packExtension ext := .ok ext

/-- A context on which the plain chain runs. -/
def plainContext : SdkContext := ⟨10, 1, some 3, false, none, none, none, none⟩

/-- The world of a plain chain with a store and a meter. -/
def plainWorld (wasm : WasmStore) (gas : GasMeter) : World (Multistore Unit) Shared :=
  ⟨⟨wasm, [], ()⟩, gas, [], ⟨some [], ⟨∅, []⟩⟩⟩

end Wasmd
