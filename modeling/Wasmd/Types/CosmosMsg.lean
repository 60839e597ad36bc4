import Wasmd.Types.Messages

/-!
# Messages of contracts

The messages of `wasmvm` as records of optional parts: each level is meant to have exactly one of
them, and the code looks at them one after the other.

* `Wasmvm.CosmosMsg` — the record.
* `Wasmvm.Variant` — a message with one part; `Variant.msg` is its record.
* `Variant.Single` — the part has exactly one part in turn.
-/

namespace Wasmd

open ByteStore

namespace Wasmvm

/-- An amount as it is written. -/
structure Coin where
  amount : String
  denom : String
  deriving DecidableEq, Repr

/-- `IBCTimeout`: a block of a revision, and a time. -/
structure IBCTimeout where
  block : Option (UInt64 × UInt64)
  timestamp : UInt64
  deriving DecidableEq, Repr

structure SendMsg where
  toAddress : String
  amount : List Coin
  deriving DecidableEq, Repr

structure BurnMsg where
  amount : List Coin
  deriving DecidableEq, Repr

structure BankMsg where
  send : Option SendMsg := none
  burn : Option BurnMsg := none
  deriving DecidableEq, Repr

structure DistributionMsg where
  /-- The address. -/
  setWithdrawAddress : Option String := none
  /-- The validator. -/
  withdrawDelegatorReward : Option String := none
  /-- The amount. -/
  fundCommunityPool : Option (List Coin) := none
  deriving DecidableEq, Repr

structure DelegateMsg where
  validator : String
  amount : Coin
  deriving DecidableEq, Repr

structure RedelegateMsg where
  srcValidator : String
  dstValidator : String
  amount : Coin
  deriving DecidableEq, Repr

structure StakingMsg where
  delegate : Option DelegateMsg := none
  undelegate : Option DelegateMsg := none
  redelegate : Option RedelegateMsg := none
  deriving DecidableEq, Repr

structure AnyMsg where
  typeURL : String
  value : Bytes
  deriving DecidableEq, Repr

structure ExecuteMsg where
  contractAddr : String
  msg : Bytes
  funds : List Coin
  deriving DecidableEq, Repr

structure InstantiateMsg where
  codeID : UInt64
  msg : Bytes
  funds : List Coin
  label : String
  admin : String
  deriving DecidableEq, Repr

structure Instantiate2Msg extends InstantiateMsg where
  salt : Bytes
  deriving DecidableEq, Repr

structure MigrateMsg where
  contractAddr : String
  newCodeID : UInt64
  msg : Bytes
  deriving DecidableEq, Repr

structure UpdateAdminMsg where
  contractAddr : String
  admin : String
  deriving DecidableEq, Repr

structure WasmMsg where
  execute : Option ExecuteMsg := none
  instantiate : Option InstantiateMsg := none
  instantiate2 : Option Instantiate2Msg := none
  migrate : Option MigrateMsg := none
  updateAdmin : Option UpdateAdminMsg := none
  /-- The contract. -/
  clearAdmin : Option String := none
  deriving DecidableEq, Repr

structure TransferMsg where
  channelID : String
  toAddress : String
  amount : Coin
  timeout : IBCTimeout
  memo : String
  deriving DecidableEq, Repr

structure SendPacketMsg where
  channelID : String
  data : Bytes
  timeout : IBCTimeout
  deriving DecidableEq, Repr

structure WriteAcknowledgementMsg where
  channelID : String
  packetSequence : UInt64
  ack : Bytes
  deriving DecidableEq, Repr

structure IBCMsg where
  transfer : Option TransferMsg := none
  sendPacket : Option SendPacketMsg := none
  writeAcknowledgement : Option WriteAcknowledgementMsg := none
  /-- The channel. -/
  closeChannel : Option String := none
  deriving DecidableEq, Repr

structure Payload where
  sourcePort : String
  destinationPort : String
  version : String
  encoding : String
  value : Bytes
  deriving DecidableEq, Repr

structure IBC2SendPacketMsg where
  sourceClient : String
  payloads : List Payload
  timeout : UInt64
  deriving DecidableEq, Repr

structure IBC2WriteAcknowledgementMsg where
  destinationClient : String
  packetSequence : UInt64
  ack : Bytes
  deriving DecidableEq, Repr

structure IBC2Msg where
  sendPacket : Option IBC2SendPacketMsg := none
  writeAcknowledgement : Option IBC2WriteAcknowledgementMsg := none
  deriving DecidableEq, Repr

/-- The vote of a contract; `unset` is the zero value. -/
inductive VoteOption where
  | unset
  | yes
  | no
  | abstain
  | noWithVeto
  deriving DecidableEq, Repr

structure VoteMsg where
  proposalID : UInt64
  option : VoteOption
  deriving DecidableEq, Repr

structure VoteWeightedMsg where
  proposalID : UInt64
  /-- Each option with its weight. -/
  options : List (VoteOption × String)
  deriving DecidableEq, Repr

structure GovMsg where
  vote : Option VoteMsg := none
  voteWeighted : Option VoteWeightedMsg := none
  deriving DecidableEq, Repr

/-- `wasmvmtypes.CosmosMsg`. -/
structure CosmosMsg where
  bank : Option BankMsg := none
  custom : Option Bytes := none
  distribution : Option DistributionMsg := none
  gov : Option GovMsg := none
  ibc : Option IBCMsg := none
  ibc2 : Option IBC2Msg := none
  staking : Option StakingMsg := none
  any : Option AnyMsg := none
  wasm : Option WasmMsg := none
  deriving DecidableEq, Repr

/-- A message with exactly one part, by its kind. -/
inductive Variant where
  | bank (msg : BankMsg)
  | custom (msg : Bytes)
  | distribution (msg : DistributionMsg)
  | gov (msg : GovMsg)
  | ibc (msg : IBCMsg)
  | ibc2 (msg : IBC2Msg)
  | staking (msg : StakingMsg)
  | any (msg : AnyMsg)
  | wasm (msg : WasmMsg)
  deriving DecidableEq, Repr

namespace Variant

/-- The record that has this part only. -/
def msg : Variant → CosmosMsg
  | bank m => { bank := some m }
  | custom m => { custom := some m }
  | distribution m => { distribution := some m }
  | gov m => { gov := some m }
  | ibc m => { ibc := some m }
  | ibc2 m => { ibc2 := some m }
  | staking m => { staking := some m }
  | any m => { any := some m }
  | wasm m => { wasm := some m }

/-- Which parts of the part are set. -/
def parts : Variant → List Bool
  | bank m => [m.send.isSome, m.burn.isSome]
  | custom _ => [true]
  | distribution m => [m.setWithdrawAddress.isSome, m.withdrawDelegatorReward.isSome,
      m.fundCommunityPool.isSome]
  | gov m => [m.vote.isSome, m.voteWeighted.isSome]
  | ibc m => [m.transfer.isSome, m.sendPacket.isSome, m.writeAcknowledgement.isSome,
      m.closeChannel.isSome]
  | ibc2 m => [m.sendPacket.isSome, m.writeAcknowledgement.isSome]
  | staking m => [m.delegate.isSome, m.undelegate.isSome, m.redelegate.isSome]
  | any _ => [true]
  | wasm m => [m.execute.isSome, m.instantiate.isSome, m.instantiate2.isSome, m.migrate.isSome,
      m.updateAdmin.isSome, m.clearAdmin.isSome]

/-- Exactly one part of the part is set. -/
def Single (v : Variant) : Prop := v.parts.count true = 1

instance (v : Variant) : Decidable v.Single := inferInstanceAs (Decidable (_ = _))

end Variant

end Wasmvm

end Wasmd
