import Wasmd.Keeper.Calls

/-!
# The entry points of the keeper

The calls from outside that run a contract and hand its response on.

* `EntryCall` — the calls whose response dispatches submessages, with the context of the calls
  below.
* `EntryCall.Asks` — what an entry point asks of the keeper.
* `EntryCall.served` — an entry point, for whatever is asked of what it asks; `EntryCall.sound` when
  that is to make changes.
-/

namespace Wasmd

open ByteStore Effects Gas

variable {ε C : Type} {k : Keeper ε C}

/-- The call depth of a context. -/
def SdkContext.depth (ctx : SdkContext) : UInt32 := ctx.callDepth.getD 0

/-! ## Entry points -/

/-- A call whose response dispatches submessages. -/
inductive EntryCall where
  | instantiate (ctx : SdkContext) (codeID : UInt64) (creator admin : Option AccAddress)
      (initMsg : Bytes) (label : String) (deposit : Coins.CoinSet) (generator : AddressGenerator)
      (policy : AuthorizationPolicy)
  | execute (ctx : SdkContext) (contract caller : AccAddress) (msg : Bytes) (coins : Coins.CoinSet)
  | migrate (ctx : SdkContext) (contract caller : AccAddress) (codeID : UInt64) (msg : Bytes)
      (policy : AuthorizationPolicy)
  | sudoContract (ctx : SdkContext) (contract : AccAddress) (msg : Bytes)
  | reply (ctx : SdkContext) (contract : AccAddress) (reply : Reply)
  | ibcChannelConnect (ctx : SdkContext) (contract : AccAddress) (msg : IBCMsg)
  | ibcChannelClose (ctx : SdkContext) (contract : AccAddress) (msg : IBCMsg)
  | ibcPacketReceive (ctx : SdkContext) (contract : AccAddress) (msg : IBCPacketReceiveMsg)
  | ibcPacketAck (ctx : SdkContext) (contract : AccAddress) (msg : IBCMsg)
  | ibcPacketTimeout (ctx : SdkContext) (contract : AccAddress) (msg : IBCMsg)
  | ibcSourceCallback (ctx : SdkContext) (contract : AccAddress) (msg : IBCMsg)
  | ibcDestinationCallback (ctx : SdkContext) (contract : AccAddress) (msg : IBCMsg)
  | ibc2PacketAck (ctx : SdkContext) (contract : AccAddress) (msg : IBCMsg)
  | ibc2PacketReceive (ctx : SdkContext) (contract : AccAddress) (msg : IBCMsg)
  | ibc2PacketTimeout (ctx : SdkContext) (contract : AccAddress) (msg : IBCMsg)
  | ibc2PacketSend (ctx : SdkContext) (contract : AccAddress) (msg : IBCMsg)

namespace EntryCall

/-- What the call does. -/
def script (k : Keeper ε C) : EntryCall → KeeperScript ε C Unit
  | .instantiate ctx codeID creator admin initMsg label deposit generator policy => do
    let _ ← k.instantiate ctx codeID creator admin initMsg label deposit generator policy
    return ()
  | .execute ctx contract caller msg coins => do
    let _ ← k.execute ctx contract caller msg coins
    return ()
  | .migrate ctx contract caller codeID msg policy => do
    let _ ← k.migrate ctx contract caller codeID msg policy
    return ()
  | .sudoContract ctx contract msg => do
    let _ ← k.sudoContract ctx contract msg
    return ()
  | .reply ctx contract answer => do
    let _ ← k.reply ctx contract answer
    return ()
  | .ibcChannelConnect ctx contract msg => k.onConnectChannel ctx contract msg
  | .ibcChannelClose ctx contract msg => k.onCloseChannel ctx contract msg
  | .ibcPacketReceive ctx contract msg => do
    let _ ← k.onRecvPacket ctx contract msg
    return ()
  | .ibcPacketAck ctx contract msg => k.onAckPacket ctx contract msg
  | .ibcPacketTimeout ctx contract msg => k.onTimeoutPacket ctx contract msg
  | .ibcSourceCallback ctx contract msg => k.ibcSourceCallback ctx contract msg
  | .ibcDestinationCallback ctx contract msg => k.ibcDestinationCallback ctx contract msg
  | .ibc2PacketAck ctx contract msg => k.onAckIBC2Packet ctx contract msg
  | .ibc2PacketReceive ctx contract msg => do
    let _ ← k.receiveIBC2Packet ctx contract msg
    return ()
  | .ibc2PacketTimeout ctx contract msg => k.onTimeoutIBC2Packet ctx contract msg
  | .ibc2PacketSend ctx contract msg => k.onSendIBC2Packet ctx contract msg

end EntryCall

/-- The context of an entry point. -/
def EntryCall.ctx : EntryCall → SdkContext
  | .instantiate ctx .. | .execute ctx .. | .migrate ctx .. | .sudoContract ctx .. | .reply ctx ..
  | .ibcChannelConnect ctx .. | .ibcChannelClose ctx .. | .ibcPacketReceive ctx ..
  | .ibcPacketAck ctx .. | .ibcPacketTimeout ctx .. | .ibcSourceCallback ctx ..
  | .ibcDestinationCallback ctx .. | .ibc2PacketAck ctx .. | .ibc2PacketReceive ctx ..
  | .ibc2PacketTimeout ctx .. | .ibc2PacketSend ctx .. => ctx

/-- The context of the calls that an entry point makes. -/
def EntryCall.callContext : EntryCall → SdkContext
  | .instantiate ctx _ _ _ _ _ _ _ policy =>
    ctx.withSubMsgAuthzPolicy (policy.subMessageAuthorizationPolicy .instantiate)
  | .migrate ctx _ _ _ _ policy =>
    ctx.withSubMsgAuthzPolicy (policy.subMessageAuthorizationPolicy .migrateContract)
  | call => call.ctx

theorem EntryCall.callContext_depth (call : EntryCall) :
    call.callContext.depth = call.ctx.depth ∧ call.callContext.simulate = call.ctx.simulate := by
  cases call <;> exact ⟨rfl, rfl⟩

/-- What an entry point asks of the keeper, beside the run of a contract that answers. -/
inductive EntryCall.Asks (k : Keeper ε C) : EntryCall → ∀ {β : Type}, KeeperM ε β → Prop
  | newInstance (ctx : SdkContext) (codeID : UInt64) (creator admin : Option AccAddress)
      (initMsg : Bytes) (label : String) (deposit : Coins.CoinSet) (generator : AddressGenerator)
      (policy : AuthorizationPolicy) :
      Asks k (.instantiate ctx codeID creator admin initMsg label deposit generator policy)
        (k.newInstance ctx codeID creator admin initMsg label deposit generator policy)
  | migrateContract (ctx : SdkContext) (contract caller : AccAddress)
      (codeID : UInt64) (msg : Bytes) (policy : AuthorizationPolicy) :
    Asks k (.migrate ctx contract caller codeID msg policy)
        (k.migrateContract ctx contract caller codeID msg policy)
  | receive (ctx : SdkContext) (contract : AccAddress) (msg : IBCPacketReceiveMsg) :
      Asks k (.ibcPacketReceive ctx contract msg)
        (k.runReceive ctx contract (.ibcPacketReceive msg))
  | storeAsyncAckPacket (ctx : SdkContext) (contract : AccAddress) (msg : IBCPacketReceiveMsg) :
      Asks k (.ibcPacketReceive ctx contract msg)
        (Keeper.storeAsyncAckPacket (convertPacket msg.packet))
  | receive2 (ctx : SdkContext) (contract : AccAddress) (msg : IBCMsg) :
      Asks k (.ibc2PacketReceive ctx contract msg)
        (k.runReceive ctx contract (.ibc2PacketReceive msg))

section Sound

variable {D : Conduct (Multistore ε) Shared SdkContext C Guarded}

/-- A discarded result hands on nothing. -/
theorem discard_sound {α : Type} [hD : D.Plain] {s : KeeperScript ε C α}
    {w : World (Multistore ε) Shared} (hs : s.Sound D w) :
    (do let _ ← s; return () : KeeperScript ε C Unit).Sound D w :=
  Script.sound_bind hD.toLawful hs fun _ _ _ => trivial

/-- **An entry point**: what it asks of the keeper, and a response of a call on its context. -/
theorem EntryCall.served [hD : D.Hosts k] {call : EntryCall} {w : World (Multistore ε) Shared}
    (hcall : ∀ {β : Type} {x : KeeperM ε β} w', call.Asks k x → D.call x w')
    (hm : ∀ l w', D.mark l w')
    (hr : ∀ r w', Answered k call.callContext r w' → D.response r w') :
    (call.script k).Sound D w := by
  cases call with
  | instantiate ctx codeID creator admin initMsg label deposit generator policy =>
      exact discard_sound (instantiate_served (hm _ _) (hcall w (.newInstance _ _ _ _ _ _ _ _ _))
        hr)
  | execute ctx contract caller msg coins => exact discard_sound (execute_sound hr)
  | migrate ctx contract caller codeID msg policy =>
      exact discard_sound (migrate_served (hm _ _) (hcall w (.migrateContract _ _ _ _ _ _)) hr)
  | sudoContract ctx contract msg => exact discard_sound (sudoContract_sound hr)
  | reply ctx contract answer => exact discard_sound (reply_sound hr)
  | ibcPacketReceive ctx contract msg =>
      refine discard_sound (runReceive_served (fun _ => rfl) hr (hcall w (.receive _ _ _))
        fun data w₁ => ?_)
      cases data with
      | some data => trivial
      | none => exact ⟨hcall w₁ (.storeAsyncAckPacket ctx contract msg), fun _ _ _ => trivial⟩
  | ibc2PacketReceive ctx contract msg =>
      refine discard_sound (runReceive_served (fun _ => rfl) hr (hcall w (.receive2 _ _ _))
        fun data w₁ => ?_)
      cases data with
      | some data => trivial
      | none => trivial
  | ibcChannelConnect ctx contract msg | ibcChannelClose ctx contract msg
  | ibcPacketAck ctx contract msg | ibcPacketTimeout ctx contract msg
  | ibcSourceCallback ctx contract msg | ibcDestinationCallback ctx contract msg
  | ibc2PacketAck ctx contract msg | ibc2PacketTimeout ctx contract msg
  | ibc2PacketSend ctx contract msg =>
      exact basicCallback_sound rfl (fun _ => rfl) hr

end Sound

/-- **An entry point** makes changes, but for a packet that it keeps. -/
theorem EntryCall.sound {D : Conduct (Multistore ε) Shared SdkContext C Guarded} {sim : Bool}
    [hD : D.Admits k sim] {call : EntryCall} {w : World (Multistore ε) Shared}
    (hm : ∀ l w', D.mark l w')
    (hr : ∀ r w', Answered k call.callContext r w' → D.response r w')
    (hstore : ∀ ctx contract msg, call = .ibcPacketReceive ctx contract msg →
      ∀ w', D.call (Keeper.storeAsyncAckPacket (convertPacket msg.packet)) w') :
    (call.script k).Sound D w := by
  refine EntryCall.served (fun w' hasks => ?_) hm hr
  cases hasks with
  | newInstance => exact hD.edits (newInstance_edits _ _ _ _ _ _ _ _ _)
  | migrateContract => exact hD.edits (migrateContract_edits _ _ _ _ _ _)
  | receive | receive2 => exact hD.edits (runReceive_edits _ _ _)
  | storeAsyncAckPacket ctx contract msg => exact hstore ctx contract msg rfl w'

end Wasmd
