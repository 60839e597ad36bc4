import Wasmd.Keeper.HandlerChain
import Wasmd.Types.PortID

/-!
# Who may acknowledge a packet of IBC v2

`IBC2Handler.OnRecvPacket` reads the contract from the port of a packet (`ibc2.go`), and
`IBC2RawPacketHandler` compares that port with the one it writes for the contract that acknowledges
(`handler_plugin.go`).

* `DeliveredAsync` — a packet was delivered to a contract, which answers later.
* `ReachesChannelKeeper` — an acknowledgement passes the checks of the handler.
* `ack_ownership` — only the contract the packet was delivered to can acknowledge it.
-/

namespace Wasmd

open ByteStore Effects Gas

variable {ε C : Type}

/-! ## Delivery and acknowledgement -/

/-- The handler of IBC v2 delivers a packet with this payload to the contract `c`, and the contract
leaves the acknowledgement for later. -/
structure DeliveredAsync (k : Keeper ε C) (lib : IBCLib)
    (handler : Response SdkContext C → KeeperM ε (Option Bytes)) (ctx : SdkContext)
    (sourceClient destinationClient : String) (sequence : UInt64) (payload : IBC2Payload)
    (relayer : AccAddress) (w : World (Multistore ε) Shared) (c : AccAddress) : Prop where
  contract : contractFromPortID2 k.codec k.hrp payload.destinationPort = .ok c
  received : ∃ w', k.recvPacket2 lib handler ctx sourceClient destinationClient sequence payload
    relayer w = (.ok .async, w')

/-- The acknowledgement of the contract `x` passes the checks, and `WriteAcknowledgement` of the
channel keeper is called. -/
def ReachesChannelKeeper (k : Keeper ε C) (m : Messenger ε C) (lib : HandlerLib ε)
    (ctx : SdkContext) (x : AccAddress) (msg : Wasmvm.IBC2WriteAcknowledgementMsg)
    (e : World ε Unit) : Prop :=
  ∃ e', k.authorizeIBC2Ack lib ctx x msg e = (.ok (), e') ∧
    k.writeIBC2Ack m lib ctx x msg e =
      (GoM.mapError (.wrapped "ibc2 Write Acknowledgement")
        (lib.writeAcknowledgement ctx msg.destinationClient msg.packetSequence [msg.ack]) >>=
        fun _ => pure ⟨[], [some m.ibcWriteAcknowledgementResponse.1],
          [[m.ibcWriteAcknowledgementResponse.2]]⟩) e'

section Checks

variable {k : Keeper ε C} {m : Messenger ε C} {ibc : IBCLib} {lib : HandlerLib ε} {ctx : SdkContext}
  {x : AccAddress} {msg : Wasmvm.IBC2WriteAcknowledgementMsg} {e e₁ : World ε Unit}

/-- The contract of the port is the one that is called. -/
theorem DeliveredAsync.called {handler : Response SdkContext C → KeeperM ε (Option Bytes)}
    {sourceClient destinationClient : String} {sequence : UInt64} {payload : IBC2Payload}
    {relayer c : AccAddress} {w : World (Multistore ε) Shared}
    (h : DeliveredAsync k ibc handler ctx sourceClient destinationClient sequence payload
      relayer w c) :
    ∃ w₁, k.onRecvIBC2Packet handler ctx c (ibc.receiveMsg2
      ⟨payload, k.codec.string relayer, sourceClient, destinationClient, sequence⟩)
        { w with events := [] } = (.ok .async, w₁) := by
  obtain ⟨w', hrecv⟩ := h.received
  obtain ⟨c', w₁, haddr, hrest⟩ := GoM.bind_ok_iff.mp hrecv
  obtain ⟨hport, rfl⟩ := mustSucceed_ok haddr
  obtain rfl : c' = c := Except.ok.inj ((mapError_eq_ok hport).symm.trans h.contract)
  obtain ⟨⟨result, events⟩, w₂, hown, h₂⟩ := GoM.bind_ok_iff.mp hrest
  obtain ⟨_, _, -, h₃⟩ := GoM.bind_ok_iff.mp h₂
  obtain ⟨_, _, -, h₄⟩ := GoM.bind_ok_iff.mp h₃
  obtain ⟨rfl, -⟩ := GoM.pure_ok_iff.mp h₄
  obtain ⟨w₃, hrun, -⟩ := ownEvents_run hown
  exact ⟨w₃, hrun⟩

/-- The checks pass for one payload with the port of the contract. -/
theorem reachesChannelKeeper_iff {stored : Option AsyncPacket}
    (hget : lib.getAsyncPacket ctx msg.destinationClient msg.packetSequence e = (.ok stored, e₁)) :
    ReachesChannelKeeper k m lib ctx x msg e ↔
      msg.destinationClient ≠ "" ∧ ∃ payload, stored = some ⟨[payload]⟩ ∧
        payload.destinationPort = portIDForContractV2 k.codec k.hrp x := by
  constructor
  · rintro ⟨e', hauth, -⟩
    obtain ⟨_, _, hensure, h₁⟩ := GoM.bind_ok_iff.mp hauth
    obtain ⟨hclient, rfl⟩ := GoM.ensure_ok_iff.mp hensure
    obtain ⟨found, e₂, hfound, h₂⟩ := GoM.bind_ok_iff.mp h₁
    cases hget.symm.trans hfound
    obtain ⟨⟨payloads⟩, _, hpacket, h₃⟩ := GoM.bind_ok_iff.mp h₂
    obtain ⟨rfl, rfl⟩ := GoM.ofOption_ok_iff.mp hpacket
    refine ⟨hclient, ?_⟩
    match payloads, h₃ with
    | [], h₃ => exact absurd h₃ GoM.failWith_ne_ok
    | [payload], h₃ => exact ⟨payload, rfl, (GoM.ensure_ok_iff.mp h₃).1⟩
    | _ :: _ :: _, h₃ => exact absurd h₃ GoM.failWith_ne_ok
  · rintro ⟨hclient, payload, rfl, hport⟩
    have hauth : k.authorizeIBC2Ack lib ctx x msg e = (.ok (), e₁) := by
      rw [Keeper.authorizeIBC2Ack, GoM.bind_run_ok (GoM.ensure_run_true hclient _ e),
        GoM.bind_run_ok hget]
      exact GoM.ensure_run_true hport _ e₁
    exact ⟨e₁, hauth, GoM.bind_run_ok hauth _⟩

/-- The port that leads to a contract is the one of `x`, if the contract is `x` and the port is in
lower case. -/
theorem port_eq_iff {port : String} {c : AccAddress} (hb : k.codec.IsBech32 k.hrp)
    (hc : contractFromPortID2 k.codec k.hrp port = .ok c) :
    port = portIDForContractV2 k.codec k.hrp x ↔ x = c ∧ port.toLower = port := by
  constructor
  · intro hport
    have hx : contractFromPortID2 k.codec k.hrp port = .ok x := by
      rw [hport]
      exact contractFromPortID2_portIDForContractV2 hb x
    obtain rfl : x = c := Except.ok.inj (hx.symm.trans hc)
    exact ⟨rfl, (eq_portIDForContractV2_iff hb hc).mp hport⟩
  · rintro ⟨rfl, hlower⟩
    exact (eq_portIDForContractV2_iff hb hc).mpr hlower

end Checks

/-- **Who may acknowledge a packet.**  A packet with one payload was delivered to `c`, which answers
later.  While the channel keeper stores the packet, the acknowledgement of a contract `x` reaches
the channel keeper exactly if `x` is `c` and the port of the packet is in lower case; if the prefix
of addresses has a letter the port always is.  Without a stored packet no acknowledgement gets
there. -/
theorem ack_ownership (k : Keeper ε C) (m : Messenger ε C) (ibc : IBCLib) (lib : HandlerLib ε)
    (hb : k.codec.IsBech32 k.hrp) (handler : Response SdkContext C → KeeperM ε (Option Bytes))
    (ctx ctx' : SdkContext) (sourceClient destinationClient : String) (sequence : UInt64)
    (payload : IBC2Payload) (relayer c : AccAddress) (w : World (Multistore ε) Shared)
    (hclient : destinationClient ≠ "")
    (h : DeliveredAsync k ibc handler ctx sourceClient destinationClient sequence payload
      relayer w c) :
    (∀ x ack e e₁,
      lib.getAsyncPacket ctx' destinationClient sequence e = (.ok (some ⟨[payload]⟩), e₁) →
      (ReachesChannelKeeper k m lib ctx' x ⟨destinationClient, sequence, ack⟩ e ↔
        x = c ∧ payload.destinationPort.toLower = payload.destinationPort) ∧
      (k.hrp.toUpper ≠ k.hrp →
        (ReachesChannelKeeper k m lib ctx' x ⟨destinationClient, sequence, ack⟩ e ↔ x = c))) ∧
    ∀ x msg e e₁, lib.getAsyncPacket ctx' msg.destinationClient msg.packetSequence e =
      (.ok none, e₁) →
      ¬ ReachesChannelKeeper k m lib ctx' x msg e := by
  constructor
  · intro x ack e e₁ hget
    have hreaches : ReachesChannelKeeper k m lib ctx' x ⟨destinationClient, sequence, ack⟩ e ↔
        x = c ∧ payload.destinationPort.toLower = payload.destinationPort := by
      rw [reachesChannelKeeper_iff hget, ← port_eq_iff hb h.contract]
      constructor
      · rintro ⟨-, payload', hpayload, hport⟩
        cases hpayload
        exact hport
      · intro hport
        exact ⟨hclient, payload, rfl, hport⟩
    refine ⟨hreaches, fun hhrp => hreaches.trans (and_iff_left ?_)⟩
    rw [← eq_portIDForContractV2_iff hb h.contract]
    exact eq_portIDForContractV2 hb hhrp h.contract
  · intro x msg e e₁ hget hreaches
    obtain ⟨-, payload, hnone, -⟩ := (reachesChannelKeeper_iff hget).mp hreaches
    cases hnone

/-! ### A prefix without letters

If the prefix of addresses is a digit, a port in upper case leads to the contract too. -/

/-- A chain with contracts that answer later. -/
def ownedKeeper (codec : AddressCodec) (hrp : String) : Keeper Unit Unit :=
  { laterKeeper with
    codec := codec
    hrp := hrp }

/-- A payload for the port. -/
def ownedPayload (port : String) : IBC2Payload := ⟨"wasm2", port, "v1", "json", []⟩

/-- The channel keeper stores the packet with that payload, and takes every acknowledgement. -/
def ownedLib (port : String) : HandlerLib Unit :=
  { burnLib with getAsyncPacket := fun _ _ _ => pure (some ⟨[ownedPayload port]⟩) }

/-- The packet is received. -/
def ownedRecv (codec : AddressCodec) (hrp port : String) : KeeperM Unit Keeper.RecvPacketResult :=
  (ownedKeeper codec hrp).recvPacket2 laterLib (fun _ => pure none) ibcCtx "client-0" "client-1" 1
    (ownedPayload port) ibcCreator

/-- The packet was delivered to the contract. -/
def OwnedDelivered (codec : AddressCodec) (hrp port : String) : Prop :=
  DeliveredAsync (ownedKeeper codec hrp) laterLib (fun _ => pure none) ibcCtx
    "client-0" "client-1" 1 (ownedPayload port) ibcCreator laterWorld ibcContract

/-- The contract acknowledges the packet. -/
def OwnedReaches (codec : AddressCodec) (hrp port : String) : Prop :=
  ReachesChannelKeeper (ownedKeeper codec hrp) loopMessenger (ownedLib port) ibcCtx ibcContract
    ⟨"client-1", 1, [1]⟩ ⟨(), .infinite 0, [], ()⟩

theorem lower_71 : "71".toLower = "71" := lower_of_chars (by decide)

/-- The addresses of a chain with the prefix `7`. -/
def digitCodec : AddressCodec := startedCodec "71" lower_71 (by decide)

/-- The port of the contract in upper case. -/
def digitPort : String :=
  portIDPrefixV2 ++ ("1" ++ String.ofList (letters ibcContract.bytes)).toUpper

theorem digitRecv_ok :
    (ownedRecv digitCodec "7" digitPort laterWorld).1.toOption = some .async := by
  decide +kernel

/-- **The contract cannot acknowledge its packet**, though it was delivered to it and is stored. -/
theorem ack_refused :
    digitCodec.IsBech32 "7" ∧ OwnedDelivered digitCodec "7" digitPort ∧
      ¬ OwnedReaches digitCodec "7" digitPort := by
  refine ⟨startedCodec_isBech32 lower_71 (by decide) (by decide : "71" = "7" ++ "1"),
    ⟨by decide +kernel, _, GoM.ok_of_toOption digitRecv_ok⟩, fun hreaches => ?_⟩
  have hget : (ownedLib digitPort).getAsyncPacket ibcCtx "client-1" 1 ⟨(), .infinite 0, [], ()⟩ =
      (.ok (some ⟨[ownedPayload digitPort]⟩), ⟨(), .infinite 0, [], ()⟩) := rfl
  obtain ⟨-, payload, hpayload, hport⟩ := (reachesChannelKeeper_iff hget).mp hreaches
  cases hpayload
  exact absurd hport (by decide +kernel)

/-- The port of the contract with the prefix `wasm`. -/
def letterPort : String := portIDForContractV2 letterCodec "wasm" ibcContract

theorem letterRecv_ok :
    (ownedRecv letterCodec "wasm" letterPort laterWorld).1.toOption = some .async := by
  decide +kernel

/-- With the prefix of the chain it can. -/
theorem ack_ownership_letters :
    OwnedDelivered letterCodec "wasm" letterPort ∧ OwnedReaches letterCodec "wasm" letterPort := by
  have hdelivered : OwnedDelivered letterCodec "wasm" letterPort :=
    ⟨contractFromPortID2_portIDForContractV2 letterCodec_isBech32 ibcContract, _,
      GoM.ok_of_toOption letterRecv_ok⟩
  have howner := (ack_ownership (ownedKeeper letterCodec "wasm") loopMessenger laterLib
    (ownedLib letterPort) letterCodec_isBech32 (fun _ => pure none) ibcCtx ibcCtx
      "client-0" "client-1" 1
    (ownedPayload letterPort) ibcCreator ibcContract laterWorld (by decide) hdelivered).1
      ibcContract [1]
    ⟨(), .infinite 0, [], ()⟩ _ rfl
  exact ⟨hdelivered, (howner.2 (by decide +kernel)).mpr rfl⟩

end Wasmd
