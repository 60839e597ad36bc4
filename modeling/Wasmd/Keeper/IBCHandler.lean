import Wasmd.Keeper.Ports

/-!
# The IBC modules of a contract

`IBCHandler` of `x/wasm/ibc.go` and `IBC2Handler` of `keeper/ibc2.go` receive packets for contracts.
Both run the contract with an event manager of its own and decide afterwards whether its events are
passed on.

* `newIBCPacket` — a packet as the contract sees it; `convertPacket` undoes it.
* `Keeper.recvPacket`, `Keeper.recvPacket2` — `OnRecvPacket` of the two.
* `EventsFollow` — the events of a receive are passed on exactly if its state is kept.
* `receive_events_iff` — when they do.
-/

namespace Wasmd

open ByteStore Effects Gas

variable {ε C α : Type}

/-! ## Packets -/

/-- `newIBCPacket`: a zero height is no timeout. -/
def newIBCPacket (packet : Packet) : IBCPacket where
  data := packet.data
  src := ⟨packet.sourcePort, packet.sourceChannel⟩
  dest := ⟨packet.destinationPort, packet.destinationChannel⟩
  sequence := packet.sequence
  timeoutBlock := if packet.timeoutHeight = (0, 0) then none else some packet.timeoutHeight
  timeoutTimestamp := packet.timeoutTimestamp

/-- **A packet comes back as it was** from the form the contract sees it in. -/
theorem convertPacket_newIBCPacket (packet : Packet) :
    convertPacket (newIBCPacket packet) = packet := by
  obtain ⟨sequence, sourcePort, sourceChannel, destPort, destChannel, data, height, timestamp⟩ :=
    packet
  by_cases h : height = (0, 0)
  · simp [convertPacket, newIBCPacket, h]
  · simp [convertPacket, newIBCPacket, h]

/-- `channeltypesv2.Payload`. -/
structure IBC2Payload where
  sourcePort : String
  destinationPort : String
  version : String
  encoding : String
  value : Bytes

/-- `wasmvmtypes.IBC2PacketReceiveMsg`. -/
structure IBC2PacketReceiveMsg where
  payload : IBC2Payload
  relayer : String
  sourceClient : String
  destinationClient : String
  packetSequence : UInt64

/-- What the handlers use of other libraries. -/
structure IBCLib where
  /-- `IBCPacketReceiveMsg` as the VM is given it. -/
  receiveMsg : IBCPacket → String → IBCMsg
  /-- `IBC2PacketReceiveMsg` as the VM is given it. -/
  receiveMsg2 : IBC2PacketReceiveMsg → IBCMsg
  /-- The text of `NewErrorAcknowledgementWithCodespace`. -/
  errorAcknowledgement : GoError → String

/-! ## Events -/

/-- A call with an event manager of its own, and the events it collected. -/
def ownEvents (x : KeeperM ε α) : KeeperM ε (α × List Event) := fun w =>
  match x { w with events := [] } with
  | (.ok a, w') => (.ok (a, w'.events), { w' with events := w.events })
  | (.error e, w') => (.error e, { w' with events := w.events })

/-- The error of a call as a value. -/
def caught (x : KeeperM ε α) : KeeperM ε (Except GoError α) := fun w =>
  match x w with
  | (.ok a, w') => (.ok (.ok a), w')
  | (.error (.error e), w') => (.ok (.error e), w')
  | (.error (.panic p), w') => (.error (.panic p), w')

/-- A computation whose error is a panic. -/
def mustSucceed (x : Except GoError α) : KeeperM ε α :=
  orPanic (x.mapError fun e => .message e.text)

/-- The type of the event both handlers add. -/
def packetRecvEvent : String := "ibc_packet_received"

namespace Keeper

variable (k : Keeper ε C)

/-- `emitEvent` of `types/events.go`. -/
def ackEvent (contractAddr : AccAddress) (success : Bool) (err : Option GoError) : Event :=
  ⟨packetRecvEvent, [⟨"module", "wasm"⟩, ⟨"_contract_address", k.codec.string contractAddr⟩,
    ⟨"success", if success then "true" else "false"⟩] ++
    err.toList.map fun e => ⟨"error", e.text⟩⟩

end Keeper

/-! ## The handlers -/

namespace Keeper

/-- A nil acknowledgement, or one of success: `ibc-go` keeps the state. -/
def PacketAck.commits : PacketAck → Bool
  | .later | .confirm _ => true
  | .error _ => false

/-- The status is `Success` or `Async`: `ibc-go` keeps the state. -/
def RecvPacketResult.commits : RecvPacketResult → Bool
  | .success _ | .async => true
  | .failure _ => false

/-- The status is `Success`. -/
def RecvPacketResult.isSuccess : RecvPacketResult → Bool
  | .success _ => true
  | .failure _ | .async => false

/-- The test of `EmitAcknowledgementIBC2Event` beside the error: only an asynchronous result has a
nil acknowledgement. -/
def RecvPacketResult.reportsSuccess : RecvPacketResult → Bool
  | .success _ | .async => true
  | .failure _ => false

variable (k : Keeper ε C) (lib : IBCLib)
  (handler : Response SdkContext C → KeeperM ε (Option Bytes))

/-- `IBCHandler.OnRecvPacket`. -/
def recvPacket (ctx : SdkContext) (packet : Packet) (relayer : AccAddress) :
    KeeperM ε PacketAck := do
  let contractAddr ← mustSucceed
    ((contractFromPortID k.codec packet.destinationPort).mapError (.wrapped "contract port id"))
  let msg : IBCPacketReceiveMsg :=
    ⟨lib.receiveMsg (newIBCPacket packet) (k.codec.string relayer), newIBCPacket packet⟩
  let (out, events) ← ownEvents (caught ((k.onRecvPacket ctx contractAddr msg).run handler))
  match out with
  | .error err => do
    emitEvents [k.ackEvent contractAddr false (some err)]
    return .error (lib.errorAcknowledgement err)
  | .ok ack => do
    (if ack.commits then emitEvents events else pure ())
    emitEvents [k.ackEvent contractAddr ack.commits none]
    return ack

/-- `IBC2Handler.OnRecvPacket`. -/
def recvPacket2 (ctx : SdkContext) (sourceClient destinationClient : String) (sequence : UInt64)
    (payload : IBC2Payload) (relayer : AccAddress) : KeeperM ε RecvPacketResult := do
  let contractAddr ← mustSucceed ((contractFromPortID2 k.codec k.hrp
    payload.destinationPort).mapError (.wrapped "Invalid contract port id"))
  let msg := lib.receiveMsg2
    ⟨payload, k.codec.string relayer, sourceClient, destinationClient, sequence⟩
  let (ack, events) ← ownEvents (k.onRecvIBC2Packet handler ctx contractAddr msg)
  (if ack.isSuccess then emitEvents events else pure ())
  emitEvents [k.ackEvent contractAddr ack.reportsSuccess none]
  return ack

end Keeper

/-! ## Events follow the state -/

section Follow

variable {k : Keeper ε C} {lib : IBCLib}
  {handler : Response SdkContext C → KeeperM ε (Option Bytes)} {ctx : SdkContext}
  {w w' : World (Multistore ε) Shared} {relayer : AccAddress}

/-- The events that were collected are passed on in order if the state is kept, and none of them
otherwise; the handler adds one event of its own. -/
def EventsFollow (kept : Bool) (collected : List Event) (w w' : World (Multistore ε) Shared) :
    Prop :=
  ∃ own, own.type = packetRecvEvent ∧
    w'.events = w.events ++ (if kept then collected else []) ++ [own]

/-- The events of the contract that receives a packet, and of its submessages. -/
def receiveEvents (k : Keeper ε C) (lib : IBCLib)
    (handler : Response SdkContext C → KeeperM ε (Option Bytes)) (ctx : SdkContext)
    (contract : AccAddress) (packet : Packet) (relayer : AccAddress)
    (w : World (Multistore ε) Shared) : List Event :=
  ((k.onRecvPacket ctx contract ⟨lib.receiveMsg (newIBCPacket packet) (k.codec.string relayer),
    newIBCPacket packet⟩).run handler { w with events := [] }).2.events

/-- The same for IBC v2. -/
def receiveEvents2 (k : Keeper ε C) (lib : IBCLib)
    (handler : Response SdkContext C → KeeperM ε (Option Bytes)) (ctx : SdkContext)
    (contract : AccAddress) (msg : IBC2PacketReceiveMsg) (w : World (Multistore ε) Shared) :
    List Event :=
  ((k.receiveIBC2Packet ctx contract (lib.receiveMsg2 msg)).run handler
    { w with events := [] }).2.events

theorem mustSucceed_ok {x : Except GoError α} {a : α}
    (h : (mustSucceed x : KeeperM ε α) w = (.ok a, w')) : x = .ok a ∧ w' = w := by
  obtain ⟨hx, rfl⟩ := orPanic_ok_iff.mp h
  cases x with
  | ok b => exact ⟨by simpa [Except.mapError] using hx, rfl⟩
  | error e => cases hx

theorem mapError_eq_ok {β γ : Type} {x : Except β α} {f : β → γ} {a : α}
    (h : x.mapError f = .ok a) : x = .ok a := by
  cases x with
  | ok b => simpa [Except.mapError] using h
  | error e => cases h

theorem ownEvents_ok {x : KeeperM ε α} {a : α} {events : List Event}
    (h : ownEvents x w = (.ok (a, events), w')) :
    (x { w with events := [] }).1 = .ok a ∧ events = (x { w with events := [] }).2.events ∧
      w'.events = w.events := by
  unfold ownEvents at h
  split at h
  · rename_i b w₁ hx
    cases h
    rw [hx]
    exact ⟨rfl, rfl, rfl⟩
  · cases h

theorem ownEvents_run {x : KeeperM ε α} {a : α} {events : List Event}
    (h : ownEvents x w = (.ok (a, events), w')) :
    ∃ w₁, x { w with events := [] } = (.ok a, w₁) ∧ w' = { w₁ with events := w.events } := by
  unfold ownEvents at h
  split at h
  · rename_i b w₁ hx
    cases h
    exact ⟨w₁, hx, rfl⟩
  · cases h

theorem caught_ok {x : KeeperM ε α} {a : α} (h : caught x w = (.ok (.ok a), w')) :
    x w = (.ok a, w') := by
  unfold caught at h
  split at h
  · rename_i hx
    cases h
    exact hx
  · cases h
  · cases h

theorem caught_events {x : KeeperM ε α} : (caught x w).2.events = (x w).2.events := by
  unfold caught
  split
  · rename_i hx
    rw [hx]
  · rename_i hx
    rw [hx]
  · rename_i hx
    rw [hx]

theorem onRecvIBC2Packet_events {contract : AccAddress} {msg : IBCMsg} :
    (k.onRecvIBC2Packet handler ctx contract msg w).2.events
      = ((k.receiveIBC2Packet ctx contract msg).run handler w).2.events := by
  unfold Keeper.onRecvIBC2Packet
  split
  · rename_i e w₁ hx
    rw [hx]
  · rfl

/-- `OnRecvPacket` of IBC v1 ends with one of its events, after those it passes on. -/
theorem recvPacket_ok {packet : Packet} {ack : Keeper.PacketAck}
    (h : k.recvPacket lib handler ctx packet relayer w = (.ok ack, w')) :
    ∃ contract, contractFromPortID k.codec packet.destinationPort = .ok contract ∧
      EventsFollow ack.commits
        (receiveEvents k lib handler ctx contract packet relayer w) w w' := by
  obtain ⟨contract, w₁, haddr, h₁⟩ := GoM.bind_ok_iff.mp h
  obtain ⟨hport, rfl⟩ := mustSucceed_ok haddr
  refine ⟨contract, mapError_eq_ok hport, ?_⟩
  obtain ⟨⟨out, events⟩, w₂, hown, h₂⟩ := GoM.bind_ok_iff.mp h₁
  obtain ⟨hout, hevents, hkept⟩ := ownEvents_ok hown
  rw [caught_events] at hevents
  cases out with
  | error err =>
      obtain ⟨_, w₃, hemit, h₃⟩ := GoM.bind_ok_iff.mp h₂
      obtain rfl := emitEvents_ok_iff.mp hemit
      obtain ⟨rfl, rfl⟩ := GoM.pure_ok_iff.mp h₃
      exact ⟨k.ackEvent contract false (some err), rfl, by simp [Keeper.PacketAck.commits, hkept]⟩
  | ok result =>
      obtain ⟨_, w₃, hpassed, h₃⟩ := GoM.bind_ok_iff.mp h₂
      obtain ⟨_, w₄, hemit, h₄⟩ := GoM.bind_ok_iff.mp h₃
      obtain rfl := emitEvents_ok_iff.mp hemit
      obtain ⟨rfl, rfl⟩ := GoM.pure_ok_iff.mp h₄
      refine ⟨k.ackEvent contract ack.commits none, rfl, ?_⟩
      split at hpassed
      · rename_i hcommits
        obtain rfl := emitEvents_ok_iff.mp hpassed
        simp [hcommits, hkept, hevents, receiveEvents]
      · rename_i hcommits
        obtain ⟨-, rfl⟩ := GoM.pure_ok_iff.mp hpassed
        simp [hcommits, hkept]

/-- If the state is kept, it is that of `OnRecvPacket` of the keeper. -/
theorem recvPacket_run {packet : Packet} {ack : Keeper.PacketAck}
    (h : k.recvPacket lib handler ctx packet relayer w = (.ok ack, w'))
    (hack : ack.commits = true) :
    ∃ contract w₁, contractFromPortID k.codec packet.destinationPort = .ok contract ∧
      (k.onRecvPacket ctx contract ⟨lib.receiveMsg (newIBCPacket packet) (k.codec.string relayer),
        newIBCPacket packet⟩).run handler { w with events := [] } = (.ok ack, w₁) ∧
      w'.ms = w₁.ms ∧ w'.shared = w₁.shared := by
  obtain ⟨contract, w₁, haddr, h₁⟩ := GoM.bind_ok_iff.mp h
  obtain ⟨hport, rfl⟩ := mustSucceed_ok haddr
  obtain ⟨⟨out, events⟩, w₂, hown, h₂⟩ := GoM.bind_ok_iff.mp h₁
  obtain ⟨w₃, hrun, rfl⟩ := ownEvents_run hown
  cases out with
  | error err =>
      obtain ⟨_, w₄, -, h₃⟩ := GoM.bind_ok_iff.mp h₂
      obtain ⟨rfl, -⟩ := GoM.pure_ok_iff.mp h₃
      cases hack
  | ok result =>
      obtain ⟨_, w₄, hpassed, h₃⟩ := GoM.bind_ok_iff.mp h₂
      obtain ⟨_, w₅, hemit, h₄⟩ := GoM.bind_ok_iff.mp h₃
      obtain rfl := emitEvents_ok_iff.mp hemit
      obtain ⟨rfl, rfl⟩ := GoM.pure_ok_iff.mp h₄
      rw [if_pos hack] at hpassed
      obtain rfl := emitEvents_ok_iff.mp hpassed
      exact ⟨contract, w₃, mapError_eq_ok hport, caught_ok hrun, rfl, rfl⟩

/-- `OnRecvPacket` of IBC v2. -/
theorem recvPacket2_ok {sourceClient destinationClient : String} {sequence : UInt64}
    {payload : IBC2Payload} {ack : Keeper.RecvPacketResult}
    (h : k.recvPacket2 lib handler ctx sourceClient destinationClient sequence payload relayer w
      = (.ok ack, w')) :
    ∃ contract, contractFromPortID2 k.codec k.hrp payload.destinationPort = .ok contract ∧
      EventsFollow ack.isSuccess (receiveEvents2 k lib handler ctx contract
        ⟨payload, k.codec.string relayer, sourceClient, destinationClient, sequence⟩ w) w w' := by
  obtain ⟨contract, w₁, haddr, h₁⟩ := GoM.bind_ok_iff.mp h
  obtain ⟨hport, rfl⟩ := mustSucceed_ok haddr
  refine ⟨contract, mapError_eq_ok hport, ?_⟩
  obtain ⟨⟨result, events⟩, w₂, hown, h₂⟩ := GoM.bind_ok_iff.mp h₁
  obtain ⟨-, hevents, hkept⟩ := ownEvents_ok hown
  rw [onRecvIBC2Packet_events] at hevents
  obtain ⟨_, w₃, hpassed, h₃⟩ := GoM.bind_ok_iff.mp h₂
  obtain ⟨_, w₄, hemit, h₄⟩ := GoM.bind_ok_iff.mp h₃
  obtain rfl := emitEvents_ok_iff.mp hemit
  obtain ⟨rfl, rfl⟩ := GoM.pure_ok_iff.mp h₄
  refine ⟨k.ackEvent contract ack.reportsSuccess none, rfl, ?_⟩
  split at hpassed
  · rename_i hsuccess
    obtain rfl := emitEvents_ok_iff.mp hpassed
    simp [hsuccess, hkept, hevents, receiveEvents2]
  · rename_i hsuccess
    obtain ⟨-, rfl⟩ := GoM.pure_ok_iff.mp hpassed
    simp [hsuccess, hkept]

/-- How many events are passed on tells which case it is. -/
theorem EventsFollow.length {kept : Bool} {collected : List Event}
    (h : EventsFollow kept collected w w') :
    w'.events.length = w.events.length + (if kept then collected.length else 0) + 1 := by
  obtain ⟨own, -, hevents⟩ := h
  rw [hevents, List.length_append, List.length_append]
  cases kept <;> rfl

end Follow

/-- **Events and state of a receive.**  `OnRecvPacket` of IBC v1 passes the events of the contract
and its submessages on exactly if its result makes `ibc-go` keep the state.  That of IBC v2 does so
exactly if the result is not asynchronous or there are no such events. -/
theorem receive_events_iff (k : Keeper ε C) (lib : IBCLib)
    (handler : Response SdkContext C → KeeperM ε (Option Bytes)) (ctx : SdkContext)
    (relayer : AccAddress) (w w' : World (Multistore ε) Shared) :
    (∀ packet ack, k.recvPacket lib handler ctx packet relayer w = (.ok ack, w') →
      ∃ contract, contractFromPortID k.codec packet.destinationPort = .ok contract ∧
        EventsFollow ack.commits (receiveEvents k lib handler ctx contract packet relayer w) w w') ∧
    ∀ sourceClient destinationClient sequence payload ack,
      k.recvPacket2 lib handler ctx sourceClient destinationClient sequence payload relayer w
        = (.ok ack, w') →
      ∃ contract collected,
        contractFromPortID2 k.codec k.hrp payload.destinationPort = .ok contract ∧
        collected = receiveEvents2 k lib handler ctx contract
          ⟨payload, k.codec.string relayer, sourceClient, destinationClient, sequence⟩ w ∧
        (EventsFollow ack.commits collected w w' ↔ ack ≠ .async ∨ collected = []) := by
  refine ⟨fun packet ack h => recvPacket_ok h, ?_⟩
  intro sourceClient destinationClient sequence payload ack h
  obtain ⟨contract, hport, hfollow⟩ := recvPacket2_ok h
  refine ⟨contract, _, hport, rfl, ?_⟩
  cases ack with
  | success data => exact iff_of_true hfollow (.inl (by simp))
  | failure data => exact iff_of_true hfollow (.inl (by simp))
  | async =>
      have hlength := hfollow.length
      constructor
      · intro h'
        have hlength' := h'.length
        refine .inr (List.length_eq_zero_iff.mp ?_)
        simp only [Keeper.RecvPacketResult.isSuccess,
          Keeper.RecvPacketResult.commits] at hlength hlength'
        simp at hlength hlength'
        omega
      · rintro (hne | hnone)
        · exact absurd rfl hne
        · obtain ⟨own, htype, hevents⟩ := hfollow
          exact ⟨own, htype, by simp [hnone, hevents, Keeper.RecvPacketResult.isSuccess]⟩

/-! ### A contract that answers later

It emits an event when it receives a packet, and leaves the acknowledgement for later. -/

/-- A chain with such contracts, whose addresses have no prefix. -/
def laterKeeper : Keeper Unit Unit :=
  { ibcKeeper with
    hrp := ""
    wasmVM := { ibcKeeper.wasmVM with
      call := fun _ _ _ _ => .ret (some (.ok ⟨[], [⟨"action", "receive"⟩], [], none⟩)) } }

/-- The messages to contracts carry nothing here. -/
def laterLib : IBCLib := ⟨fun _ _ => ⟨[], 0⟩, fun _ => ⟨[], 0⟩, fun e => e.text⟩

/-- The world with the contract. -/
def laterWorld : World (Multistore Unit) Shared :=
  plainWorld ((WasmStore.empty.storeCodeInfo 1 ⟨[1], markedText ibcCreator, allowEverybody⟩
    ).storeContractInfo ibcContract
      ⟨1, markedText ibcCreator, "", "label", ⟨10, 0⟩,
        portIDForContract laterKeeper.codec ibcContract,
        portIDForContractV2 laterKeeper.codec "" ibcContract, none⟩) (.infinite 0)

/-- A packet of IBC v1. -/
def laterPacket : Packet :=
  ⟨1, "transfer", "channel-0", portIDForContract laterKeeper.codec ibcContract,
    "channel-1", [], (0, 0), 0⟩

/-- A payload of IBC v2. -/
def laterPayload : IBC2Payload :=
  ⟨"wasm2", portIDForContractV2 laterKeeper.codec "" ibcContract, "v1", "json", []⟩

/-- IBC v1 receives the packet. -/
def laterRecv : KeeperM Unit Keeper.PacketAck :=
  laterKeeper.recvPacket laterLib (fun _ => pure none) ibcCtx laterPacket ibcCreator

/-- IBC v2 receives the payload. -/
def laterRecv2 : KeeperM Unit Keeper.RecvPacketResult :=
  laterKeeper.recvPacket2 laterLib (fun _ => pure none) ibcCtx "client-0" "client-1" 1 laterPayload
    ibcCreator

theorem laterRecv_ok : (laterRecv laterWorld).1.toOption = some .later := by decide +kernel

theorem laterRecv2_ok : (laterRecv2 laterWorld).1.toOption = some .async := by decide +kernel

/-- On IBC v1 the event of the contract is passed on. -/
theorem receive_events_later : ∃ contract,
    EventsFollow true (receiveEvents laterKeeper laterLib (fun _ => pure none) ibcCtx contract
      laterPacket ibcCreator laterWorld) laterWorld (laterRecv laterWorld).2 := by
  obtain ⟨contract, -, hfollow⟩ := (receive_events_iff laterKeeper laterLib
    (fun _ => pure none) ibcCtx ibcCreator laterWorld (laterRecv laterWorld).2).1 laterPacket .later
    (GoM.ok_of_toOption laterRecv_ok)
  exact ⟨contract, hfollow⟩

/-- **On IBC v2 the event of the contract is lost**: the result is asynchronous, so the state is
kept, and of two events only that of the handler is emitted. -/
theorem receive_events_lost :
    laterRecv2 laterWorld = (.ok .async, (laterRecv2 laterWorld).2) ∧
      ¬ EventsFollow Keeper.RecvPacketResult.async.commits
        (receiveEvents2 laterKeeper laterLib (fun _ => pure none) ibcCtx ibcContract
          ⟨laterPayload, laterKeeper.codec.string ibcCreator, "client-0", "client-1", 1⟩ laterWorld)
        laterWorld (laterRecv2 laterWorld).2 := by
  refine ⟨GoM.ok_of_toOption laterRecv2_ok, fun hfollow => ?_⟩
  have hemitted : (laterRecv2 laterWorld).2.events.length = 1 := by decide +kernel
  have hcollected : (receiveEvents2 laterKeeper laterLib (fun _ => pure none) ibcCtx ibcContract
      ⟨laterPayload, laterKeeper.codec.string ibcCreator, "client-0", "client-1", 1⟩
      laterWorld).length = 1 := by decide +kernel
  have hlength := hfollow.length
  rw [hemitted, hcollected] at hlength
  exact absurd hlength (by decide +kernel)

end Wasmd
