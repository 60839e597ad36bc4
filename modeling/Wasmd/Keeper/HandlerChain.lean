import Wasmd.Keeper.Encoders
import Wasmd.Keeper.IBCHandler
import Wasmd.Keeper.Runs

/-!
# The chain of handlers

`NewDefaultMessageHandler` tries four handlers in order (`handler_plugin.go`).  One that returns
`ErrUnknownMsg` is followed by the next, and nothing it wrote is undone.

* `sdkHandler`, `ibcHandler`, `ibc2Handler`, `burnHandler` — the handlers.
* `dispatchChain` — `MessageHandlerChain.DispatchMsg`.
* `one_handler_per_message` — all handlers but one do nothing with a message.
* `dispatchCosmosMsg_run` — the messages of contracts, sorted by the handler that is responsible,
  are dispatched as the chain does.
-/

namespace Wasmd

open ByteStore Effects Gas

variable {ε C : Type}

/-! ## The handlers -/

/-- `channeltypesv2.Packet`, as far as the handler reads it. -/
structure AsyncPacket where
  payloads : List IBC2Payload

/-- What the handlers use of other modules. -/
structure HandlerLib (ε : Type) where
  /-- `channelKeeperV2.GetAsyncPacket`. -/
  getAsyncPacket : SdkContext → String → UInt64 → ExtM ε (Option AsyncPacket)
  /-- `channelKeeperV2.WriteAcknowledgement`, with the acknowledgements of the payloads. -/
  writeAcknowledgement : SdkContext → String → UInt64 → List Bytes → ExtM ε Unit
  /-- `burner.SendCoinsFromAccountToModule`. -/
  sendCoinsFromAccountToModule : SdkContext → AccAddress → String → Coins.CoinSet → ExtM ε Unit
  /-- `burner.BurnCoins`. -/
  burnCoins : SdkContext → String → Coins.CoinSet → ExtM ε Unit

/-- `errors.Is(err, types.ErrUnknownMsg)`. -/
def isUnknownMsg (e : GoError) : Bool :=
  decide (e.abciInfo = (errUnknownMsg.codespace, errUnknownMsg.code))

namespace Keeper

variable (k : Keeper ε C) (m : Messenger ε C) (enc : EncoderLib ε) (lib : HandlerLib ε)

/-- `SDKMessageHandler.DispatchMsg`. -/
def sdkHandler (encoders : MessageEncoders ε) (ctx : SdkContext) (contractAddr : AccAddress)
    (contractIBCPortID : String) (msg : Wasmvm.CosmosMsg) : KeeperScript ε C DispatchResult := do
  let sdkMsgs ← Script.lift (onExt (encoders.encode enc ctx contractAddr contractIBCPortID msg))
  k.dispatchSdkMsgs m ctx contractAddr sdkMsgs

/-- The message of `IBCRawPacketHandler` in a message of a contract. -/
def rawIBCMsg (msg : Wasmvm.IBCMsg) : Option IBCRawMsg :=
  match msg.sendPacket, msg.writeAcknowledgement with
  | some packet, _ =>
    some (.sendPacket packet.channelID packet.data packet.timeout.block packet.timeout.timestamp)
  | none, some ack => some (.writeAcknowledgement ack.channelID ack.packetSequence ack.ack)
  | none, none => none

/-- `IBCRawPacketHandler.DispatchMsg`. -/
def ibcHandler (ctx : SdkContext) (contractAddr : AccAddress) (contractIBCPortID : String)
    (msg : Wasmvm.CosmosMsg) : KeeperM ε DispatchResult :=
  match msg.ibc.bind rawIBCMsg with
  | some raw => dispatchIBC m ctx contractAddr contractIBCPortID raw
  | none => GoM.failWith (.registered errUnknownMsg)

/-- The checks of `IBC2RawPacketHandler.DispatchMsg` on an acknowledgement. -/
def authorizeIBC2Ack (ctx : SdkContext) (contractAddr : AccAddress)
    (msg : Wasmvm.IBC2WriteAcknowledgementMsg) : ExtM ε Unit := do
  GoM.ensure (msg.destinationClient ≠ "") (errEmpty.wrap "ibc2 destination client")
  let contractIBC2PortID := portIDForContractV2 k.codec k.hrp contractAddr
  let stored ← lib.getAsyncPacket ctx msg.destinationClient msg.packetSequence
  let stored ← GoM.ofOption stored (errInvalid.wrap
    s!"no pending async packet for client {msg.destinationClient} sequence {msg.packetSequence}")
  match stored.payloads with
  | [payload] => GoM.ensure (payload.destinationPort = contractIBC2PortID) (errUnauthorized.wrap
      (s!"contract port {contractIBC2PortID} is not authorized to acknowledge packet addressed to "
        ++ s!"port {payload.destinationPort}"))
  | payloads => GoM.failWith (errInvalid.wrap s!"expected 1 payload, got {payloads.length}")

/-- `IBC2RawPacketHandler.DispatchMsg` on an acknowledgement. -/
def writeIBC2Ack (ctx : SdkContext) (contractAddr : AccAddress)
    (msg : Wasmvm.IBC2WriteAcknowledgementMsg) : ExtM ε DispatchResult := do
  k.authorizeIBC2Ack lib ctx contractAddr msg
  GoM.mapError (.wrapped "ibc2 Write Acknowledgement")
    (lib.writeAcknowledgement ctx msg.destinationClient msg.packetSequence [msg.ack])
  return ⟨[], [some m.ibcWriteAcknowledgementResponse.1], [[m.ibcWriteAcknowledgementResponse.2]]⟩

/-- `IBC2RawPacketHandler.DispatchMsg`. -/
def ibc2Handler (ctx : SdkContext) (contractAddr : AccAddress) (msg : Wasmvm.CosmosMsg) :
    KeeperM ε DispatchResult :=
  match msg.ibc2.bind (·.writeAcknowledgement) with
  | some ack => onExt (k.writeIBC2Ack m lib ctx contractAddr ack)
  | none => GoM.failWith (.registered errUnknownMsg)

/-- A burn of coins by `NewBurnCoinMessageHandler`. -/
def burn (ctx : SdkContext) (contractAddr : AccAddress) (msg : Wasmvm.BurnMsg) :
    ExtM ε DispatchResult := do
  let coins ← enc.convertCoins msg.amount
  GoM.ensure (¬ Coins.isZero coins) (errEmpty.wrap "amount")
  GoM.mapError (.wrapped "transfer to module")
    (lib.sendCoinsFromAccountToModule ctx contractAddr "wasm" coins)
  GoM.mapError (.wrapped "burn coins") (lib.burnCoins ctx "wasm" coins)
  return ⟨[], [], []⟩

/-- `NewBurnCoinMessageHandler`. -/
def burnHandler (ctx : SdkContext) (contractAddr : AccAddress) (msg : Wasmvm.CosmosMsg) :
    KeeperM ε DispatchResult :=
  match msg.bank.bind (·.burn) with
  | some amount => onExt (burn enc lib ctx contractAddr amount)
  | none => GoM.failWith (.registered errUnknownMsg)

/-- `MessageHandlerChain.DispatchMsg`. -/
def dispatchChain (handlers : List (KeeperM ε DispatchResult)) : KeeperM ε DispatchResult :=
  GoM.firstOf isUnknownMsg (errUnknownMsg.wrap "no handler found") handlers

/-- The handlers of `NewDefaultMessageHandler` with the default encoders, on one message. -/
def defaultHandlers (handler : Response SdkContext C → KeeperM ε (Option Bytes)) (ctx : SdkContext)
    (contractAddr : AccAddress) (contractIBCPortID : String) (msg : Wasmvm.CosmosMsg) :
    List (KeeperM ε DispatchResult) :=
  [(k.sdkHandler m enc (.defaultEncoders enc) ctx contractAddr contractIBCPortID msg).run handler,
    ibcHandler m ctx contractAddr contractIBCPortID msg,
    k.ibc2Handler m lib ctx contractAddr msg,
    burnHandler enc lib ctx contractAddr msg]

/-- A message for the default encoders. -/
def encoded (v : Wasmvm.Variant) : CosmosMsg ε :=
  .sdk fun ctx contractAddr contractIBCPortID =>
    (MessageEncoders.defaultEncoders enc).encode enc ctx contractAddr contractIBCPortID v.msg

/-- A message sorted by the handler that is responsible for it. -/
def responsible (v : Wasmvm.Variant) : CosmosMsg ε :=
  match v with
  | .bank { burn := some amount, .. } =>
    .extension fun ctx contractAddr => .last (burn enc lib ctx contractAddr amount)
  | .ibc msg => ((rawIBCMsg msg).map .ibc).getD (encoded enc v)
  | .ibc2 { writeAcknowledgement := some ack, .. } =>
    .extension fun ctx contractAddr => .last (k.writeIBC2Ack m lib ctx contractAddr ack)
  | _ => encoded enc v

end Keeper

/-! ## All handlers but one are silent -/

section Chain

variable {k : Keeper ε C} {m : Messenger ε C} {enc : EncoderLib ε} {lib : HandlerLib ε}
  {handler : Response SdkContext C → KeeperM ε (Option Bytes)} {ctx : SdkContext}
  {contractAddr : AccAddress} {port : String} {msg : Wasmvm.CosmosMsg} {v : Wasmvm.Variant}

theorem sdkHandler_silent {encoders : MessageEncoders ε} {e : GoError}
    (h : encoders.encode enc ctx contractAddr port msg = EncoderLib.fail e)
    (he : isUnknownMsg e = true) : GoM.Silent isUnknownMsg
      ((k.sdkHandler m enc encoders ctx contractAddr port msg).run handler) := by
  intro w
  refine ⟨e, he, ?_⟩
  rw [Keeper.sdkHandler, h, Script.run_bind]
  rfl

theorem ibcHandler_silent (h : msg.ibc.bind Keeper.rawIBCMsg = none) :
    GoM.Silent isUnknownMsg (Keeper.ibcHandler m ctx contractAddr port msg) := by
  rw [Keeper.ibcHandler, h]
  exact GoM.Silent.failWith (by decide)

theorem ibc2Handler_silent (h : msg.ibc2.bind (·.writeAcknowledgement) = none) :
    GoM.Silent isUnknownMsg (k.ibc2Handler m lib ctx contractAddr msg) := by
  rw [Keeper.ibc2Handler, h]
  exact GoM.Silent.failWith (by decide)

theorem burnHandler_silent (h : msg.bank.bind (·.burn) = none) :
    GoM.Silent isUnknownMsg (Keeper.burnHandler enc lib ctx contractAddr msg) := by
  rw [Keeper.burnHandler, h]
  exact GoM.Silent.failWith (by decide)

/-- All handlers in a list but `x` are silent. -/
structure OneOf (handlers : List (KeeperM ε DispatchResult)) (x : KeeperM ε DispatchResult)
    (pre post : List (KeeperM ε DispatchResult)) : Prop where
  split : handlers = pre ++ x :: post
  pre : ∀ y ∈ pre, GoM.Silent isUnknownMsg y
  post : ∀ y ∈ post, GoM.Silent isUnknownMsg y

/-- What `dispatchCosmosMsg` runs is `x`, with the error at the end of the chain. -/
def Dispatches (k : Keeper ε C) (m : Messenger ε C)
    (handler : Response SdkContext C → KeeperM ε (Option Bytes)) (ctx : SdkContext)
    (contractAddr : AccAddress) (port : String) (sorted : CosmosMsg ε)
    (x : KeeperM ε DispatchResult) : Prop :=
  ∀ c, m.variant c = sorted →
    (k.dispatchCosmosMsg m ctx contractAddr port c).run handler = GoM.mapError noHandlerFound x

theorem dispatches_encoded : Dispatches k m handler ctx contractAddr port (Keeper.encoded enc v)
    ((k.sdkHandler m enc (.defaultEncoders enc) ctx contractAddr port v.msg).run handler) := by
  intro c hc
  funext w
  rw [Keeper.dispatchCosmosMsg, Script.run_mapError, hc]
  rfl

theorem dispatches_ibc {raw : IBCRawMsg} : Dispatches k m handler ctx contractAddr port (.ibc raw)
    (Keeper.dispatchIBC m ctx contractAddr port raw) := by
  intro c hc
  funext w
  rw [Keeper.dispatchCosmosMsg, Script.run_mapError, hc]
  show GoM.mapError noHandlerFound ((Script.lift _).run handler) w = _
  rw [Script.lift_run]

theorem dispatches_extension {handle : SdkContext → AccAddress → ExtM ε DispatchResult} :
    Dispatches k m handler ctx contractAddr port (.extension fun ctx a => .last (handle ctx a))
      (onExt (handle ctx contractAddr)) := by
  intro c hc
  funext w
  rw [Keeper.dispatchCosmosMsg, Script.run_mapError, hc]
  show GoM.mapError noHandlerFound ((Script.lift _).run handler) w = _
  rw [Script.lift_run]

/-- The SDK handler is the one, if no other handler knows the message. -/
theorem oneOf_encoded (hibc : v.msg.ibc.bind Keeper.rawIBCMsg = none)
    (hibc2 : v.msg.ibc2.bind (·.writeAcknowledgement) = none)
    (hburn : v.msg.bank.bind (·.burn) = none) :
    OneOf (k.defaultHandlers m enc lib handler ctx contractAddr port v.msg)
      ((k.sdkHandler m enc (.defaultEncoders enc) ctx contractAddr port v.msg).run handler) []
      [Keeper.ibcHandler m ctx contractAddr port v.msg, k.ibc2Handler m lib ctx contractAddr v.msg,
        Keeper.burnHandler enc lib ctx contractAddr v.msg] where
  split := rfl
  pre := by simp
  post := by
    intro y hy
    rcases List.mem_cons.mp hy with rfl | hy
    · exact ibcHandler_silent hibc
    rcases List.mem_cons.mp hy with rfl | hy
    · exact ibc2Handler_silent hibc2
    · obtain rfl := List.mem_singleton.mp hy
      exact burnHandler_silent hburn

/-- A handler of the chain and that of the sorted message. -/
def HasOneHandler (k : Keeper ε C) (m : Messenger ε C) (enc : EncoderLib ε) (lib : HandlerLib ε)
    (handler : Response SdkContext C → KeeperM ε (Option Bytes)) (ctx : SdkContext)
    (contractAddr : AccAddress) (port : String) (v : Wasmvm.Variant) : Prop :=
  ∃ x pre post, OneOf (k.defaultHandlers m enc lib handler ctx contractAddr port v.msg) x pre post ∧
    Dispatches k m handler ctx contractAddr port (k.responsible m enc lib v) x

theorem hasOneHandler_bank {msg : Wasmvm.BankMsg} (hv : (Wasmvm.Variant.bank msg).Single) :
    HasOneHandler k m enc lib handler ctx contractAddr port (.bank msg) := by
  obtain ⟨send, burn⟩ := msg
  cases burn with
  | none => exact ⟨_, _, _, oneOf_encoded rfl rfl rfl, dispatches_encoded⟩
  | some amount =>
      cases send with
      | some send => exact absurd hv (by simp [Wasmvm.Variant.Single, Wasmvm.Variant.parts])
      | none =>
          refine ⟨_, [_, _, _], [], ⟨rfl, ?_, by simp⟩, dispatches_extension⟩
          intro y hy
          rcases List.mem_cons.mp hy with rfl | hy
          · exact sdkHandler_silent rfl (by decide)
          rcases List.mem_cons.mp hy with rfl | hy
          · exact ibcHandler_silent rfl
          · obtain rfl := List.mem_singleton.mp hy
            exact ibc2Handler_silent rfl

theorem hasOneHandler_ibc2 {msg : Wasmvm.IBC2Msg} (hv : (Wasmvm.Variant.ibc2 msg).Single) :
    HasOneHandler k m enc lib handler ctx contractAddr port (.ibc2 msg) := by
  obtain ⟨sendPacket, ack⟩ := msg
  cases ack with
  | none => exact ⟨_, _, _, oneOf_encoded rfl rfl rfl, dispatches_encoded⟩
  | some ack =>
      cases sendPacket with
      | some packet => exact absurd hv (by simp [Wasmvm.Variant.Single, Wasmvm.Variant.parts])
      | none =>
          refine ⟨_, [_, _], [_], ⟨rfl, ?_, ?_⟩, dispatches_extension⟩
          · intro y hy
            rcases List.mem_cons.mp hy with rfl | hy
            · exact sdkHandler_silent rfl (by decide)
            · obtain rfl := List.mem_singleton.mp hy
              exact ibcHandler_silent rfl
          · intro y hy
            obtain rfl := List.mem_singleton.mp hy
            exact burnHandler_silent rfl

/-- A message for the handler of packets is none for the encoders. -/
theorem encode_raw {msg : Wasmvm.IBCMsg} {raw : IBCRawMsg} (hraw : Keeper.rawIBCMsg msg = some raw)
    (hv : (Wasmvm.Variant.ibc msg).Single) :
    (MessageEncoders.defaultEncoders enc).encode enc ctx contractAddr port
      (Wasmvm.Variant.ibc msg).msg =
      EncoderLib.fail (errUnknownMsg.wrap "unknown variant of IBC") := by
  obtain ⟨transfer, sendPacket, ack, closeChannel⟩ := msg
  have hone : sendPacket.isSome = true ∨ ack.isSome = true := by
    cases sendPacket with
    | some packet => exact .inl rfl
    | none =>
        cases ack with
        | some ack => exact .inr rfl
        | none => cases hraw
  have hnone : transfer = none ∧ closeChannel = none := by
    revert hv hone
    cases transfer <;> cases sendPacket <;> cases ack <;> cases closeChannel <;>
      simp [Wasmvm.Variant.Single, Wasmvm.Variant.parts]
  obtain ⟨rfl, rfl⟩ := hnone
  rfl

theorem hasOneHandler_ibc {msg : Wasmvm.IBCMsg} (hv : (Wasmvm.Variant.ibc msg).Single) :
    HasOneHandler k m enc lib handler ctx contractAddr port (.ibc msg) := by
  cases hraw : Keeper.rawIBCMsg msg with
  | none =>
      refine ⟨_, _, _, oneOf_encoded hraw rfl rfl, ?_⟩
      rw [Keeper.responsible, hraw]
      exact dispatches_encoded
  | some raw =>
      have hhandler : Keeper.ibcHandler m ctx contractAddr port (Wasmvm.Variant.ibc msg).msg =
          Keeper.dispatchIBC m ctx contractAddr port raw := by
        show (match Keeper.rawIBCMsg msg with
          | some raw => Keeper.dispatchIBC m ctx contractAddr port raw
          | none => GoM.failWith (.registered errUnknownMsg)) = _
        rw [hraw]
      refine ⟨_, [_], [_, _], ⟨rfl, ?_, ?_⟩, ?_⟩
      · intro y hy
        obtain rfl := List.mem_singleton.mp hy
        exact sdkHandler_silent (encode_raw hraw hv) (by decide)
      · intro y hy
        rcases List.mem_cons.mp hy with rfl | hy
        · exact ibc2Handler_silent rfl
        · obtain rfl := List.mem_singleton.mp hy
          exact burnHandler_silent rfl
      · rw [Keeper.responsible, hraw, hhandler]
        exact dispatches_ibc

theorem hasOneHandler (k : Keeper ε C) (m : Messenger ε C) (enc : EncoderLib ε) (lib : HandlerLib ε)
    (handler : Response SdkContext C → KeeperM ε (Option Bytes)) (ctx : SdkContext)
    (contractAddr : AccAddress) (port : String) (hv : v.Single) :
    HasOneHandler k m enc lib handler ctx contractAddr port v := by
  cases v with
  | bank msg => exact hasOneHandler_bank hv
  | ibc msg => exact hasOneHandler_ibc hv
  | ibc2 msg => exact hasOneHandler_ibc2 hv
  | custom msg => exact ⟨_, _, _, oneOf_encoded rfl rfl rfl, dispatches_encoded⟩
  | distribution msg => exact ⟨_, _, _, oneOf_encoded rfl rfl rfl, dispatches_encoded⟩
  | gov msg => exact ⟨_, _, _, oneOf_encoded rfl rfl rfl, dispatches_encoded⟩
  | staking msg => exact ⟨_, _, _, oneOf_encoded rfl rfl rfl, dispatches_encoded⟩
  | any msg => exact ⟨_, _, _, oneOf_encoded rfl rfl rfl, dispatches_encoded⟩
  | wasm msg => exact ⟨_, _, _, oneOf_encoded rfl rfl rfl, dispatches_encoded⟩

/-- **The model of the keeper dispatches as the chain does**, if it sorts messages by the handler
that is responsible. -/
theorem dispatchCosmosMsg_run (hv : v.Single) {c : C}
    (hc : m.variant c = k.responsible m enc lib v) :
    (k.dispatchCosmosMsg m ctx contractAddr port c).run handler =
      Keeper.dispatchChain (k.defaultHandlers m enc lib handler ctx contractAddr port v.msg) := by
  obtain ⟨x, pre, post, hone, hdispatch⟩ :=
    hasOneHandler k m enc lib handler ctx contractAddr port hv
  rw [Keeper.dispatchChain, hone.split, GoM.firstOf_single hone.pre hone.post, hdispatch c hc]
  congr 1
  funext e
  simp [noHandlerFound, isUnknownMsg]

end Chain

/-- **One handler for each message.**  On a message with exactly one variant and sub-variant, all
default handlers but one do nothing and return `ErrUnknownMsg`, and when the chain succeeds it does
what that one does alone from the starting state.  Whenever handlers return `ErrUnknownMsg` and the
next one succeeds, those before it have done nothing. -/
theorem one_handler_per_message (k : Keeper ε C) (m : Messenger ε C) (enc : EncoderLib ε)
    (lib : HandlerLib ε) (handler : Response SdkContext C → KeeperM ε (Option Bytes))
    (ctx : SdkContext) (contractAddr : AccAddress) (port : String) (v : Wasmvm.Variant)
    (hv : v.Single) (w w' : World (Multistore ε) Shared) (out : DispatchResult)
    (hrun : Keeper.dispatchChain
      (k.defaultHandlers m enc lib handler ctx contractAddr port v.msg) w = (.ok out, w')) :
    (∃ x pre post, k.defaultHandlers m enc lib handler ctx contractAddr port v.msg =
      pre ++ x :: post ∧ (∀ y ∈ pre ++ post, GoM.Silent isUnknownMsg y) ∧ x w = (.ok out, w')) ∧
    ∀ x pre post w₁ out' w₂,
      k.defaultHandlers m enc lib handler ctx contractAddr port v.msg = pre ++ x :: post →
      GoM.Passes isUnknownMsg pre w w₁ → x w₁ = (.ok out', w₂) → w₁ = w := by
  obtain ⟨x, pre, post, hone, -⟩ := hasOneHandler k m enc lib handler ctx contractAddr port hv
  constructor
  · refine ⟨x, pre, post, hone.split, ?_, ?_⟩
    · intro y hy
      exact (List.mem_append.mp hy).elim (hone.pre y) (hone.post y)
    · rw [Keeper.dispatchChain, hone.split, GoM.firstOf_single hone.pre hone.post] at hrun
      exact GoM.mapError_ok_iff.mp hrun
  · intro y pre' post' w₁ out' w₂ hsplit hpass hy
    exact hpass.eq_of_single hone.pre hone.post (hone.split.symm.trans hsplit) hy

/-! ### A burn of coins -/

/-- All amounts are read as five. -/
def burnEncoders : EncoderLib Unit :=
  { MessageEncoders.plainLib with
    newIntFromString := fun _ => some 5
    addCoin := fun coins coin => .ok (coin :: coins) }

/-- The bank moves and burns coins, and no packets wait. -/
def burnLib : HandlerLib Unit :=
  ⟨fun _ _ _ => pure none, fun _ _ _ _ => pure (), fun _ _ _ _ => pure (), fun _ _ _ => pure ()⟩

/-- A contract burns coins. -/
def burnVariant : Wasmvm.Variant := .bank { burn := some ⟨[⟨"5", "stake"⟩]⟩ }

/-- The chain of handlers on the burn. -/
def burnRun : KeeperM Unit DispatchResult :=
  Keeper.dispatchChain ((plainKeeper Unit).defaultHandlers loopMessenger burnEncoders burnLib
    (fun _ => pure none) ⟨10, 0, none, false, none, none, none, none⟩ MessageEncoders.anyContract ""
    burnVariant.msg)

/-- The world before the burn. -/
def burnWorld : World (Multistore Unit) Shared := plainWorld WasmStore.empty (.infinite 0)

theorem burnRun_ok : (burnRun burnWorld).1.toOption = some ⟨[], [], []⟩ := by decide +kernel

/-- One of the handlers burns the coins. -/
theorem one_handler_burns :
    ∃ x ∈ (plainKeeper Unit).defaultHandlers loopMessenger burnEncoders burnLib
    (fun _ => pure none) ⟨10, 0, none, false, none, none, none, none⟩ MessageEncoders.anyContract ""
    burnVariant.msg, x burnWorld = (.ok ⟨[], [], []⟩, (burnRun burnWorld).2) := by
  obtain ⟨⟨x, pre, post, hsplit, -, hx⟩, -⟩ :=
    one_handler_per_message (plainKeeper Unit) loopMessenger
    burnEncoders burnLib (fun _ => pure none) ⟨10, 0, none, false, none, none, none, none⟩
    MessageEncoders.anyContract "" burnVariant (by decide) burnWorld
      (burnRun burnWorld).2 ⟨[], [], []⟩
    (GoM.ok_of_toOption burnRun_ok)
  exact ⟨x, by rw [hsplit]; simp, hx⟩

end Wasmd
