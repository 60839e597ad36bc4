import Wasmd.Keeper.MsgServer
import Wasmd.Types.CosmosMsg

/-!
# The encoders of messages

`MessageEncoders` turns the messages of contracts into SDK messages (`handler_plugin_encoders.go`),
and can be merged with encoders of the chain.

* `encodeBankMsg` … `encodeGovMsg` — the default encoders.
* `MessageEncoders`, `merge`, `encode` — one encoder for each kind; merging replaces those that are
  given.
* `supplied` — the encoder that the last override gives, or that of the base.
* `encode_supplied_iff` — when the merged encoders use it.
-/

namespace Wasmd

open ByteStore Effects Gas

variable {ε : Type}

/-! ## Messages of other modules -/

/-- `channeltypesv2.Payload`. -/
structure PayloadV2 where
  sourcePort : String
  destinationPort : String
  version : String
  encoding : String
  value : Bytes
  deriving DecidableEq, Repr

/-- The SDK messages of other modules that the encoders build. -/
inductive ForeignMsg where
  | bankSend (fromAddress toAddress : String) (amount : Coins.CoinSet)
  | setWithdrawAddress (delegatorAddress withdrawAddress : String)
  | withdrawDelegatorReward (delegatorAddress validatorAddress : String)
  | fundCommunityPool (depositor : String) (amount : Coins.CoinSet)
  | delegate (delegatorAddress validatorAddress : String) (amount : Coins.Coin)
  | beginRedelegate (delegatorAddress validatorSrcAddress validatorDstAddress : String)
      (amount : Coins.Coin)
  | undelegate (delegatorAddress validatorAddress : String) (amount : Coins.Coin)
  | channelCloseInit (portID channelID signer : String)
  | transfer (sourcePort sourceChannel : String) (token : Coins.Coin) (sender receiver : String)
      (timeoutHeight : UInt64 × UInt64) (timeoutTimestamp : UInt64) (memo : String)
  | sendPacketV2 (sourceClient : String) (timeoutTimestamp : UInt64) (payloads : List PayloadV2)
      (signer : String)
  | vote (voter : AccAddress) (proposalID : UInt64) (option : Wasmvm.VoteOption) (metadata : String)
  | voteWeighted (voter : AccAddress) (proposalID : UInt64)
      (options : List (Wasmvm.VoteOption × String)) (metadata : String)
  deriving DecidableEq

/-- What surrounds the encoders. -/
structure EncoderLib (ε : Type) where
  codec : AddressCodec
  /-- `sdkmath.NewIntFromString`. -/
  newIntFromString : String → Option Int
  /-- `Coins.Add`; the sum of two amounts may overflow. -/
  addCoin : Coins.CoinSet → Coins.Coin → Except Panic Coins.CoinSet
  /-- `Coins.Sort`. -/
  sortCoins : Coins.CoinSet → Coins.CoinSet
  /-- `sdkmath.LegacyNewDecFromStr`, printed again. -/
  decFromString : String → Except GoError String
  /-- `portSource.GetPort`. -/
  transferPort : SdkContext → ExtM ε String
  /-- `UnpackAny`. -/
  unpackAny : String → Bytes → Option (SdkMsg ε)
  /-- The error of `UnpackInterfaces`. -/
  unpackInterfaces : SdkMsg ε → Option String
  /-- A message of another module, as the router handles it. -/
  foreign : ForeignMsg → OtherMsg ε

/-- `ErrInvalidMsg`. -/
def errInvalidMsg : Registered := ⟨"wasm", 10, "invalid CosmosMsg from the contract"⟩

/-- `MaxAnyMsgValueSize`. -/
def maxAnyMsgValueSize : Nat := 512 * 1024

/-- `AnyMsgBaseGasCost`. -/
def anyMsgBaseGasCost : UInt64 := 5

/-- `AnyMsgPerKBGasCost`. -/
def anyMsgPerKBGasCost : UInt64 := 1

/-- `ConvertWasmIBCTimeoutHeightToCosmosHeight`. -/
def convertTimeoutHeight (block : Option (UInt64 × UInt64)) : UInt64 × UInt64 := block.getD (0, 0)

/-- `Coin.Validate`: unlike in a set of coins, the amount may be zero. -/
def validateSdkCoin (c : Coins.Coin) : Except GoError Unit :=
  if ¬ Coins.validDenom c.denom then .error (.foreign s!"invalid denom: {c.denom}")
  else if c.amount < 0 then .error (.foreign s!"negative coin amount: {c.amount}")
  else .ok ()

/-- The seconds of a time in nanoseconds, through `int64` and back. -/
def unixSeconds (nanoseconds : UInt64) : UInt64 :=
  UInt64.ofInt (Int.fdiv nanoseconds.toInt64.toInt 1000000000)

/-- `convertVoteOption`. -/
def convertVoteOption : Wasmvm.VoteOption → Except GoError Wasmvm.VoteOption
  | .unset => .error (.registered errInvalid)
  | option => .ok option

namespace EncoderLib

variable (lib : EncoderLib ε)

/-- An error of an encoder. -/
def fail {α : Type} (err : GoError) : ExtM ε α := GoM.failWith err

/-- `ConvertWasmCoinToSdkCoin`. -/
def convertCoin (coin : Wasmvm.Coin) : ExtM ε Coins.Coin :=
  match lib.newIntFromString coin.amount with
  | none => fail (errInvalidCoins.wrap (coin.amount ++ coin.denom))
  | some amount => do
    GoM.ofExcept ((validateSdkCoin ⟨coin.denom, amount⟩).mapError .error)
    return ⟨coin.denom, amount⟩

/-- The loop of `ConvertWasmCoinsToSdkCoins`. -/
def convertCoinsFrom : Coins.CoinSet → List Wasmvm.Coin → ExtM ε Coins.CoinSet
  | toSend, [] => return lib.sortCoins toSend
  | toSend, coin :: rest => do
    let c ← lib.convertCoin coin
    let toSend ← GoM.ofExcept ((lib.addCoin toSend c).mapError .panic)
    convertCoinsFrom toSend rest

/-- `ConvertWasmCoinsToSdkCoins`. -/
def convertCoins (coins : List Wasmvm.Coin) : ExtM ε Coins.CoinSet := lib.convertCoinsFrom [] coins

/-- One message of another module. -/
def single (msg : ForeignMsg) : ExtM ε (List (SdkMsg ε)) := return [.other (lib.foreign msg)]

/-! ## The default encoders -/

/-- `EncodeBankMsg`. -/
def encodeBankMsg (sender : AccAddress) (msg : Wasmvm.BankMsg) : ExtM ε (List (SdkMsg ε)) :=
  match msg.send with
  | none => fail (errUnknownMsg.wrap "unknown variant of Bank")
  | some send =>
    if send.amount.length = 0 then return []
    else do
      let toSend ← lib.convertCoins send.amount
      lib.single (.bankSend (lib.codec.string sender) send.toAddress toSend)

/-- `NoCustomMsg`. -/
def noCustomMsg (_ : AccAddress) (_ : Bytes) : ExtM ε (List (SdkMsg ε)) :=
  fail (errUnknownMsg.wrap "custom variant not supported")

/-- `EncodeDistributionMsg`. -/
def encodeDistributionMsg (sender : AccAddress) (msg : Wasmvm.DistributionMsg) :
    ExtM ε (List (SdkMsg ε)) :=
  match msg.setWithdrawAddress, msg.withdrawDelegatorReward, msg.fundCommunityPool with
  | some address, _, _ => lib.single (.setWithdrawAddress (lib.codec.string sender) address)
  | none, some validator, _ =>
    lib.single (.withdrawDelegatorReward (lib.codec.string sender) validator)
  | none, none, some amount => do
    let amt ← lib.convertCoins amount
    lib.single (.fundCommunityPool (lib.codec.string sender) amt)
  | none, none, none => fail (errUnknownMsg.wrap "unknown variant of Distribution")

/-- `EncodeStakingMsg`. -/
def encodeStakingMsg (sender : AccAddress) (msg : Wasmvm.StakingMsg) : ExtM ε (List (SdkMsg ε)) :=
  match msg.delegate, msg.redelegate, msg.undelegate with
  | some delegate, _, _ => do
    let coin ← lib.convertCoin delegate.amount
    lib.single (.delegate (lib.codec.string sender) delegate.validator coin)
  | none, some redelegate, _ => do
    let coin ← lib.convertCoin redelegate.amount
    lib.single (.beginRedelegate (lib.codec.string sender) redelegate.srcValidator
      redelegate.dstValidator coin)
  | none, none, some undelegate => do
    let coin ← lib.convertCoin undelegate.amount
    lib.single (.undelegate (lib.codec.string sender) undelegate.validator coin)
  | none, none, none => fail (errUnknownMsg.wrap "unknown variant of Staking")

/-- `EncodeAnyMsg`. -/
def encodeAnyMsg (_ : SdkContext) (_ : AccAddress) (msg : Wasmvm.AnyMsg) :
    ExtM ε (List (SdkMsg ε)) := do
  GoM.ensure (msg.value.length ≤ maxAnyMsgValueSize) (errLimit.wrap
    s!"AnyMsg value size {msg.value.length} exceeds limit {maxAnyMsgValueSize}")
  consumeGas (anyMsgBaseGasCost + anyMsgPerKBGasCost * UInt64.ofNat msg.value.length / 1024)
    "unpacking AnyMsg"
  let sdkMsg ← GoM.ofOption (lib.unpackAny msg.typeURL msg.value) (errInvalidMsg.wrap
    s!"Cannot unpack proto message with type URL: {msg.typeURL}")
  match lib.unpackInterfaces sdkMsg with
  | some err => fail (errInvalidMsg.wrap s!"UnpackInterfaces inside msg: {err}")
  | none => return [sdkMsg]

/-- `EncodeWasmMsg`. -/
def encodeWasmMsg (sender : AccAddress) (msg : Wasmvm.WasmMsg) : ExtM ε (List (SdkMsg ε)) :=
  match msg.execute, msg.instantiate, msg.instantiate2, msg.migrate, msg.clearAdmin,
    msg.updateAdmin with
  | some execute, _, _, _, _, _ => do
    let coins ← lib.convertCoins execute.funds
    return [.wasm
      (.executeContract (lib.codec.string sender) execute.contractAddr execute.msg coins)]
  | none, some instantiate, _, _, _, _ => do
    let coins ← lib.convertCoins instantiate.funds
    return [.wasm (.instantiateContract (lib.codec.string sender) instantiate.admin
      instantiate.codeID instantiate.label instantiate.msg coins)]
  | none, none, some instantiate2, _, _, _ => do
    let coins ← lib.convertCoins instantiate2.funds
    return [.wasm (.instantiateContract2 (lib.codec.string sender) instantiate2.admin
      instantiate2.codeID instantiate2.label instantiate2.msg coins instantiate2.salt false)]
  | none, none, none, some migrate, _, _ =>
    return [.wasm (.migrateContract (lib.codec.string sender) migrate.contractAddr migrate.newCodeID
      migrate.msg)]
  | none, none, none, none, some contract, _ =>
    return [.wasm (.clearAdmin (lib.codec.string sender) contract)]
  | none, none, none, none, none, some updateAdmin =>
    return [.wasm
      (.updateAdmin (lib.codec.string sender) updateAdmin.admin updateAdmin.contractAddr)]
  | none, none, none, none, none, none => fail (errUnknownMsg.wrap "unknown variant of Wasm")

/-- `EncodeIBCMsg`. -/
def encodeIBCMsg (ctx : SdkContext) (sender : AccAddress) (_ : String) (msg : Wasmvm.IBCMsg) :
    ExtM ε (List (SdkMsg ε)) :=
  match msg.closeChannel, msg.transfer with
  | some channelID, _ =>
      lib.single (.channelCloseInit (portIDForContract lib.codec sender) channelID
      (lib.codec.string sender))
  | none, some transfer => do
    let amount ← GoM.mapError (.wrapped "amount") (lib.convertCoin transfer.amount)
    let sourcePort ← lib.transferPort ctx
    lib.single (.transfer sourcePort transfer.channelID amount (lib.codec.string sender)
      transfer.toAddress (convertTimeoutHeight transfer.timeout.block) transfer.timeout.timestamp
      transfer.memo)
  | none, none => fail (errUnknownMsg.wrap "unknown variant of IBC")

/-- The loop of `EncodeIBCv2Msg` over the payloads. -/
def convertPayloads (payloads : List Wasmvm.Payload) : List PayloadV2 :=
  payloads.foldl (fun acc payload => acc ++ [
    { sourcePort := payload.sourcePort
      destinationPort := payload.destinationPort
      version := payload.version
      encoding := payload.encoding
      value := payload.value }]) []

/-- The message that `EncodeIBCv2Msg` builds for a packet. -/
def sendPacketMsg (sender : AccAddress) (packet : Wasmvm.IBC2SendPacketMsg) : ForeignMsg :=
  .sendPacketV2 packet.sourceClient (unixSeconds packet.timeout) (convertPayloads packet.payloads)
    (lib.codec.string sender)

/-- `EncodeIBCv2Msg`. -/
def encodeIBCv2Msg (sender : AccAddress) (msg : Wasmvm.IBC2Msg) : ExtM ε (List (SdkMsg ε)) :=
  match msg.sendPacket with
  | some packet => lib.single (lib.sendPacketMsg sender packet)
  | none => fail (errUnknownMsg.wrap "unknown variant of IBCv2")

/-- The loop over the options of a weighted vote; `i` counts from one. -/
def convertWeights : Nat → List (Wasmvm.VoteOption × String) →
    Except GoError (List (Wasmvm.VoteOption × String))
  | _, [] => return []
  | i, (option, weight) :: rest => do
    let weight ← (lib.decFromString weight).mapError (.wrapped s!"weight for vote {i}")
    let voteOption ← (convertVoteOption option).mapError (.wrapped "vote option")
    let others ← convertWeights (i + 1) rest
    return (voteOption, weight) :: others

/-- `EncodeGovMsg`. -/
def encodeGovMsg (sender : AccAddress) (msg : Wasmvm.GovMsg) : ExtM ε (List (SdkMsg ε)) :=
  match msg.vote, msg.voteWeighted with
  | some vote, _ => do
    let voteOption ← GoM.ofExcept (((convertVoteOption vote.option).mapError
      (.wrapped "vote option")).mapError .error)
    lib.single (.vote sender vote.proposalID voteOption "")
  | none, some vote => do
    let opts ← GoM.ofExcept ((lib.convertWeights 1 vote.options).mapError .error)
    lib.single (.voteWeighted sender vote.proposalID opts "")
  | none, none => fail (errUnknownMsg.wrap "unknown variant of gov")

end EncoderLib

/-! ## Merged encoders -/

/-- `MessageEncoders`; a field may be nil. -/
structure MessageEncoders (ε : Type) where
  bank : Option (AccAddress → Wasmvm.BankMsg → ExtM ε (List (SdkMsg ε)))
  custom : Option (AccAddress → Bytes → ExtM ε (List (SdkMsg ε)))
  distribution : Option (AccAddress → Wasmvm.DistributionMsg → ExtM ε (List (SdkMsg ε)))
  ibc : Option (SdkContext → AccAddress → String → Wasmvm.IBCMsg → ExtM ε (List (SdkMsg ε)))
  ibc2 : Option (AccAddress → Wasmvm.IBC2Msg → ExtM ε (List (SdkMsg ε)))
  staking : Option (AccAddress → Wasmvm.StakingMsg → ExtM ε (List (SdkMsg ε)))
  any : Option (SdkContext → AccAddress → Wasmvm.AnyMsg → ExtM ε (List (SdkMsg ε)))
  wasm : Option (AccAddress → Wasmvm.WasmMsg → ExtM ε (List (SdkMsg ε)))
  gov : Option (AccAddress → Wasmvm.GovMsg → ExtM ε (List (SdkMsg ε)))

namespace MessageEncoders

/-- `DefaultEncoders`. -/
def defaultEncoders (lib : EncoderLib ε) : MessageEncoders ε where
  bank := some lib.encodeBankMsg
  custom := some EncoderLib.noCustomMsg
  distribution := some lib.encodeDistributionMsg
  ibc := some lib.encodeIBCMsg
  ibc2 := some lib.encodeIBCv2Msg
  staking := some lib.encodeStakingMsg
  any := some lib.encodeAnyMsg
  wasm := some lib.encodeWasmMsg
  gov := some lib.encodeGovMsg

/-- `Merge`. -/
def merge (e : MessageEncoders ε) : Option (MessageEncoders ε) → MessageEncoders ε
  | none => e
  | some o =>
    { bank := o.bank.or e.bank
      custom := o.custom.or e.custom
      distribution := o.distribution.or e.distribution
      ibc := o.ibc.or e.ibc
      ibc2 := o.ibc2.or e.ibc2
      staking := o.staking.or e.staking
      any := o.any.or e.any
      wasm := o.wasm.or e.wasm
      gov := o.gov.or e.gov }

/-- The encoders of `NewDefaultMessageHandler`, from any base. -/
def mergeAll (base : MessageEncoders ε) (overrides : List (Option (MessageEncoders ε))) :
    MessageEncoders ε := overrides.foldl merge base

/-- A call of an encoder; a nil function panics. -/
def call {F : Type} (encoder : Option F) (f : F → ExtM ε (List (SdkMsg ε))) :
    ExtM ε (List (SdkMsg ε)) :=
  match encoder with
  | some g => f g
  | none => GoM.ofExcept (.error (.panic (.message "nil pointer dereference")))

/-- `Encode`: the votes go to `EncodeGovMsg` itself. -/
def encode (lib : EncoderLib ε) (e : MessageEncoders ε) (ctx : SdkContext)
    (contractAddr : AccAddress) (contractIBCPortID : String) (msg : Wasmvm.CosmosMsg) :
    ExtM ε (List (SdkMsg ε)) :=
  match msg.bank, msg.custom, msg.distribution, msg.ibc, msg.ibc2, msg.staking, msg.any, msg.wasm,
    msg.gov with
  | some bank, _, _, _, _, _, _, _, _ => call e.bank (· contractAddr bank)
  | none, some custom, _, _, _, _, _, _, _ => call e.custom (· contractAddr custom)
  | none, none, some distribution, _, _, _, _, _, _ =>
    call e.distribution (· contractAddr distribution)
  | none, none, none, some ibc, _, _, _, _, _ =>
    call e.ibc (· ctx contractAddr contractIBCPortID ibc)
  | none, none, none, none, some ibc2, _, _, _, _ => call e.ibc2 (· contractAddr ibc2)
  | none, none, none, none, none, some staking, _, _, _ => call e.staking (· contractAddr staking)
  | none, none, none, none, none, none, some any, _, _ => call e.any (· ctx contractAddr any)
  | none, none, none, none, none, none, none, some wasm, _ => call e.wasm (· contractAddr wasm)
  | none, none, none, none, none, none, none, none, some gov => lib.encodeGovMsg contractAddr gov
  | none, none, none, none, none, none, none, none, none =>
    EncoderLib.fail (errUnknownMsg.wrap "unknown variant of Wasm")

/-! ## What an override supplies -/

/-- The field of the last override that has it, or that of the base. -/
def supplied {F : Type} (field : MessageEncoders ε → Option F) (base : MessageEncoders ε)
    (overrides : List (Option (MessageEncoders ε))) : Option F :=
  (overrides.filterMap fun o => o.bind field).getLast?.or (field base)

/-- **Merging in order** leaves the field of the last override that has it. -/
theorem field_mergeAll {F : Type} {field : MessageEncoders ε → Option F}
    (hfield : ∀ e o, field (merge e o) = (o.bind field).or (field e)) (base : MessageEncoders ε)
    (overrides : List (Option (MessageEncoders ε))) :
    field (mergeAll base overrides) = supplied field base overrides := by
  induction overrides generalizing base with
  | nil => rfl
  | cons o rest ih =>
      have hrest : field (mergeAll base (o :: rest)) = supplied field (merge base o) rest :=
        ih (merge base o)
      rw [hrest, supplied, supplied, hfield, List.filterMap_cons]
      cases ho : o.bind field with
      | none => simp
      | some f =>
          rw [List.getLast?_cons]
          cases (rest.filterMap fun o => o.bind field).getLast? with
          | none => simp
          | some g => simp

/-- The encoder that is supplied for the kind of a message, on that message. -/
def suppliedEncode (base : MessageEncoders ε) (overrides : List (Option (MessageEncoders ε)))
    (ctx : SdkContext) (contractAddr : AccAddress) (contractIBCPortID : String) :
    Wasmvm.Variant → ExtM ε (List (SdkMsg ε))
  | .bank msg => call (supplied (·.bank) base overrides) (· contractAddr msg)
  | .custom msg => call (supplied (·.custom) base overrides) (· contractAddr msg)
  | .distribution msg => call (supplied (·.distribution) base overrides) (· contractAddr msg)
  | .ibc msg => call (supplied (·.ibc) base overrides) (· ctx contractAddr contractIBCPortID msg)
  | .ibc2 msg => call (supplied (·.ibc2) base overrides) (· contractAddr msg)
  | .staking msg => call (supplied (·.staking) base overrides) (· contractAddr msg)
  | .any msg => call (supplied (·.any) base overrides) (· ctx contractAddr msg)
  | .wasm msg => call (supplied (·.wasm) base overrides) (· contractAddr msg)
  | .gov msg => call (supplied (·.gov) base overrides) (· contractAddr msg)

theorem encode_gov (lib : EncoderLib ε) (e : MessageEncoders ε) (ctx : SdkContext)
    (contractAddr : AccAddress) (port : String) (msg : Wasmvm.GovMsg) :
    encode lib e ctx contractAddr port (Wasmvm.Variant.gov msg).msg =
      lib.encodeGovMsg contractAddr msg :=
  rfl

/-- All kinds but the votes go to the merged encoder. -/
theorem encode_mergeAll {lib : EncoderLib ε} {base : MessageEncoders ε}
    {overrides : List (Option (MessageEncoders ε))} {ctx : SdkContext} {contractAddr : AccAddress}
    {port : String} {v : Wasmvm.Variant} (hgov : ∀ msg, v ≠ .gov msg) :
    encode lib (mergeAll base overrides) ctx contractAddr port v.msg =
      suppliedEncode base overrides ctx contractAddr port v := by
  have hmerge : ∀ {F : Type} {field : MessageEncoders ε → Option F}
      {f : F → ExtM ε (List (SdkMsg ε))}, (∀ e o, field (merge e o) = (o.bind field).or (field e)) →
      call (field (mergeAll base overrides)) f = call (supplied field base overrides) f :=
    fun hfield => by rw [field_mergeAll hfield]
  cases v with
  | gov msg => exact absurd rfl (hgov msg)
  | bank msg => exact @hmerge _ (fun e => e.bank) _ (by rintro e (_ | o) <;> rfl)
  | custom msg => exact @hmerge _ (fun e => e.custom) _ (by rintro e (_ | o) <;> rfl)
  | distribution msg => exact @hmerge _ (fun e => e.distribution) _ (by rintro e (_ | o) <;> rfl)
  | ibc msg => exact @hmerge _ (fun e => e.ibc) _ (by rintro e (_ | o) <;> rfl)
  | ibc2 msg => exact @hmerge _ (fun e => e.ibc2) _ (by rintro e (_ | o) <;> rfl)
  | staking msg => exact @hmerge _ (fun e => e.staking) _ (by rintro e (_ | o) <;> rfl)
  | any msg => exact @hmerge _ (fun e => e.any) _ (by rintro e (_ | o) <;> rfl)
  | wasm msg => exact @hmerge _ (fun e => e.wasm) _ (by rintro e (_ | o) <;> rfl)

/-- **Custom encoders take effect** for every kind but the votes, where the encoder that is supplied
must do what `EncodeGovMsg` does. -/
theorem encode_supplied_iff (lib : EncoderLib ε) (base : MessageEncoders ε)
    (overrides : List (Option (MessageEncoders ε))) (ctx : SdkContext) (contractAddr : AccAddress)
    (contractIBCPortID : String) (v : Wasmvm.Variant) :
    encode lib (mergeAll base overrides) ctx contractAddr contractIBCPortID v.msg =
        suppliedEncode base overrides ctx contractAddr contractIBCPortID v ↔
      ∀ msg, v = .gov msg → call (supplied (·.gov) base overrides) (· contractAddr msg) =
        lib.encodeGovMsg contractAddr msg := by
  by_cases hgov : ∃ msg, v = .gov msg
  · obtain ⟨msg, rfl⟩ := hgov
    rw [encode_gov]
    constructor
    · rintro h msg' heq
      obtain rfl := Wasmvm.Variant.gov.inj heq
      exact h.symm
    · intro h
      exact (h msg rfl).symm
  · have hother : ∀ msg, v ≠ .gov msg := fun msg heq => hgov ⟨msg, heq⟩
    exact iff_of_true (encode_mergeAll hother) fun msg heq => absurd heq (hother msg)

/-! ### An encoder that drops its messages -/

/-- The surroundings of the encoders on a chain without other modules. -/
def plainLib : EncoderLib Unit where
  codec := (plainKeeper Unit).codec
  newIntFromString _ := none
  addCoin _ _ := .ok []
  sortCoins := id
  decFromString := .ok
  transferPort _ := pure "transfer"
  unpackAny _ _ := none
  unpackInterfaces _ := none
  foreign _ := ⟨"", "", .ok (), .ok [], none⟩

/-- No encoder. -/
def noEncoders : MessageEncoders Unit := ⟨none, none, none, none, none, none, none, none, none⟩

/-- The wallet messages are dropped. -/
def dropBank : MessageEncoders Unit := { noEncoders with bank := some fun _ _ => pure [] }

/-- The votes are dropped. -/
def dropGov : MessageEncoders Unit := { noEncoders with gov := some fun _ _ => pure [] }

/-- A contract. -/
def anyContract : AccAddress := .thirtyTwo 1

/-- A burn is dropped. -/
theorem encode_supplied_bank :
    encode plainLib (mergeAll (defaultEncoders plainLib) [none, some dropBank, some noEncoders])
      ⟨10, 0, none, false, none, none, none,
        none⟩ anyContract "" { bank := some { burn := some ⟨[]⟩ } } =
        pure [] :=
  (encode_supplied_iff plainLib (defaultEncoders plainLib) [none, some dropBank, some noEncoders] _
    anyContract "" (.bank { burn := some ⟨[]⟩ })).mpr nofun

/-- **A vote is not dropped**, though the encoder of votes that was given drops it. -/
theorem encode_gov_ignored :
    encode plainLib (mergeAll (defaultEncoders plainLib) [some dropGov])
        ⟨10, 0, none, false, none, none, none,
          none⟩ anyContract "" { gov := some { vote := some ⟨1, .yes⟩ } } ≠
      suppliedEncode (defaultEncoders plainLib) [some dropGov] ⟨10, 0, none, false, none,
        none, none, none⟩ anyContract "" (.gov { vote := some ⟨1, .yes⟩ }) := by
  intro h
  have hlength := congrArg (fun x : ExtM Unit (List (SdkMsg Unit)) =>
    (x ⟨(), .infinite 0, [], ()⟩).1.toOption.map List.length) h
  exact absurd hlength (by decide)

end MessageEncoders

end Wasmd
