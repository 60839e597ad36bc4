import Wasmd.Keeper.Change
import Wasmd.Keeper.ContractRuns
import Wasmd.Keeper.DispatchLocal
import Wasmd.Keeper.MsgServer

/-!
# What messages and replies lead to

A message of the module makes changes of the durable state, begins operations under one policy, and
hands on at most the response of the contract it called.  This file says so once for the message
server and, from that, for the messages and replies of contracts.

* `movesConduct` — calls make changes only; what is asked of operations and responses is left open.
* `storeConduct` — calls keep a relation of the stores.
* `Answered` — what is known of a response: its context is one call deeper, and its port is the one
  stored for the contract.
* `Served` — what serving a message asks of the keeper, with what has been checked by then.
* `msgServer_served`, `reply_sound`, `dispatchCosmosMsg_served` — the scripts, for whatever is asked
  of what is served; `msgServer_sound`, `dispatchCosmosMsg_sound` when that is to make changes.
* `chain_served`, `chain_sound` — the rules for the chain of the keeper.
-/

namespace Wasmd

open ByteStore Effects Gas

variable {ε C α β : Type}

/-! ## Responses -/

/-- The context one call deeper. -/
def SdkContext.deeper (ctx : SdkContext) : SdkContext :=
  { ctx with callDepth := some (ctx.callDepth.getD 0 + 1) }

/-- The port that a response of the entry point is handed on with: `ibc2.go` takes that of IBC
v2. -/
def EntryPoint.port (e : EntryPoint) (info : ContractInfo) : String :=
  if e.isIBC2 then info.ibc2PortID else info.ibcPortID

/-- The response comes from a call on the context `ctx`. -/
structure OnContext (k : Keeper ε C) (ctx : SdkContext) (r : Response SdkContext C) : Prop where
  ctx_eq : r.ctx = ctx.deeper
  depth_le : ctx.callDepth.getD 0 + 1 ≤ k.maxCallDepth

/-- What is known of a response that is handed on: it comes with the port that is stored for the
contract and that its entry point takes. -/
structure Answered (k : Keeper ε C) (ctx : SdkContext) (r : Response SdkContext C)
    (w : World (Multistore ε) Shared) : Prop extends OnContext k ctx r where
  port : ∃ info, w.ms.wasm.getContractInfo r.contract = some info ∧ r.ibcPort = r.entry.port info

theorem Answered.stored {k : Keeper ε C} {ctx : SdkContext} {r : Response SdkContext C}
    {w : World (Multistore ε) Shared} (h : Answered k ctx r w) :
    (w.ms.wasm.getContractInfo r.contract).isSome := by
  obtain ⟨info, hinfo, -⟩ := h.port
  exact Option.isSome_of_eq_some hinfo

theorem checkAndIncreaseCallDepth_ok {ctx ctx' : SdkContext} {maxCallDepth : UInt32}
    (h : checkAndIncreaseCallDepth ctx maxCallDepth = .ok ctx') :
    ctx' = ctx.deeper ∧ ctx.callDepth.getD 0 + 1 ≤ maxCallDepth := by
  unfold checkAndIncreaseCallDepth at h
  dsimp only at h
  split at h
  · cases h
  · rename_i hle
    exact ⟨(Except.ok.inj h).symm, UInt32.not_lt.mp hle⟩

theorem emitResponse_ok {k : Keeper ε C} {ctx ctx' : SdkContext} {a : AccAddress}
    {attrs : List Attribute} {evts : List Event} {w w' : World (Multistore ε) Shared}
    (h : k.emitResponse ctx a attrs evts w = (.ok ctx', w')) :
    ctx' = ctx.deeper ∧ ctx.callDepth.getD 0 + 1 ≤ k.maxCallDepth ∧ w'.ms.wasm = w.ms.wasm := by
  have hstore := ((emitResponse_stays k _ _ _ _).confined h).wasm_eq
  obtain ⟨_, _, -, h₁⟩ := GoM.bind_ok_iff.mp h
  obtain ⟨_, _, -, h₂⟩ := GoM.bind_ok_iff.mp h₁
  obtain ⟨_, _, -, h₃⟩ := GoM.bind_ok_iff.mp h₂
  obtain ⟨_, _, -, h₄⟩ := GoM.bind_ok_iff.mp h₃
  obtain ⟨_, _, -, h₅⟩ := GoM.bind_ok_iff.mp h₄
  obtain ⟨_, _, -, h₆⟩ := GoM.bind_ok_iff.mp h₅
  obtain ⟨hdepth, -⟩ := orError_ok_iff.mp h₆
  obtain ⟨hctx, hle⟩ := checkAndIncreaseCallDepth_ok hdepth
  exact ⟨hctx, hle, hstore⟩

/-! ### The contract that answered -/

section Stored

variable {k : Keeper ε C} {w w' : World (Multistore ε) Shared} {a : AccAddress}
  {info : ContractInfo}

theorem contractInstance_ok {codec : AddressCodec} {codeInfo : CodeInfo}
    (h : contractInstance codec a w = (.ok (info, codeInfo), w')) :
    w.ms.wasm.getContractInfo a = some info ∧
      w.ms.wasm.getCodeInfo info.codeID = some codeInfo ∧ w' = w := by
  obtain ⟨info', hinfo, h₁⟩ := lookup_ok h
  obtain ⟨codeInfo', hcode, h₂⟩ := lookup_ok h₁
  obtain ⟨heq, rfl⟩ := GoM.pure_ok_iff.mp h₂
  cases heq
  exact ⟨hinfo, hcode, rfl⟩

/-- A call on a stored contract that is confined to it leaves its record alone. -/
theorem stored_of_confined (hinfo : w.ms.wasm.getContractInfo a = some info)
    (hc : Confined (· = a) w w') : w'.ms.wasm.getContractInfo a = some info :=
  (hc.read_eq (·.getContractInfo a)).trans hinfo

theorem runExecute_stored {ctx : SdkContext} {caller : AccAddress} {msg : Bytes}
    {coins : Coins.CoinSet} {res : ContractResponse C}
    (h : k.runExecute ctx a caller msg coins w = (.ok (info, res), w')) :
    w'.ms.wasm.getContractInfo a = some info := by
  have hc := (runExecute_stays k _ _ _ _ _).confined h
  obtain ⟨⟨info', codeInfo⟩, w₁, hinstance, h₁⟩ := GoM.bind_ok_iff.mp h
  obtain ⟨hinfo, -, -⟩ := contractInstance_ok hinstance
  obtain ⟨_, w₂, -, h₂⟩ := GoM.bind_ok_iff.mp h₁
  obtain ⟨_, w₃, -, h₃⟩ := GoM.bind_ok_iff.mp h₂
  obtain ⟨_, w₄, -, h₄⟩ := GoM.bind_ok_iff.mp h₃
  obtain ⟨heq, -⟩ := GoM.pure_ok_iff.mp h₄
  cases heq
  exact stored_of_confined hinfo hc

theorem runContract_stored {ctx : SdkContext} {input : VMInput} {vmFailed : Registered}
    {res : ContractResponse C}
    (h : k.runContract ctx a input vmFailed w = (.ok (info, res), w')) :
    w'.ms.wasm.getContractInfo a = some info := by
  have hc := (runContract_stays k _ _ _ _).confined h
  obtain ⟨⟨info', codeInfo⟩, w₁, hinstance, h₁⟩ := GoM.bind_ok_iff.mp h
  obtain ⟨hinfo, -, -⟩ := contractInstance_ok hinstance
  obtain ⟨_, w₂, -, h₂⟩ := GoM.bind_ok_iff.mp h₁
  obtain ⟨_, w₃, -, h₃⟩ := GoM.bind_ok_iff.mp h₂
  obtain ⟨heq, -⟩ := GoM.pure_ok_iff.mp h₃
  cases heq
  exact stored_of_confined hinfo hc

theorem runReceive_stored {ctx : SdkContext} {input : VMInput}
    {out : Except String (ContractResponse C)}
    (h : k.runReceive ctx a input w = (.ok (info, out), w')) :
    w'.ms.wasm.getContractInfo a = some info := by
  have hc := (runReceive_stays k _ _ _).confined h
  obtain ⟨⟨info', codeInfo⟩, w₁, hinstance, h₁⟩ := GoM.bind_ok_iff.mp h
  obtain ⟨hinfo, -, -⟩ := contractInstance_ok hinstance
  obtain ⟨⟨_, res⟩, w₂, -, h₂⟩ := GoM.bind_ok_iff.mp h₁
  obtain rfl : info' = info := by
    rcases res with stop | _ | err | res
    · exact absurd h₂ GoM.raise_ne_ok
    · exact absurd h₂ GoM.failWith_ne_ok
    · by_cases herr : err = ""
      · simp only [herr, if_true] at h₂
        exact absurd h₂ GoM.raise_ne_ok
      · simp only [herr, if_false] at h₂
        exact congrArg Prod.fst (GoM.pure_ok_iff.mp h₂).1.symm
    · exact congrArg Prod.fst (GoM.pure_ok_iff.mp h₂).1.symm
  exact stored_of_confined hinfo hc

theorem newInstance_stored {ctx : SdkContext} {codeID : UInt64} {creator admin : Option AccAddress}
    {initMsg : Bytes} {label : String} {deposit : Coins.CoinSet} {g : AddressGenerator}
    {authPolicy : AuthorizationPolicy} {res : ContractResponse C}
    (h : k.newInstance ctx codeID creator admin initMsg label deposit g authPolicy w =
      (.ok (a, info, res), w')) : w'.ms.wasm.getContractInfo a = some info := by
  obtain ⟨addr, codeInfo, s₁, -, -, -, -, -, -, hregistry, -, -⟩ := newInstance_ok h
  have hget := congrArg (·.getContractInfo a) hregistry
  exact hget.trans (WasmStore.getContractInfo_storeContractInfo_self _ _ _)

theorem migrateContract_stored {ctx : SdkContext} {caller : AccAddress} {newCodeID : UInt64}
    {msg : Bytes} {authZ : AuthorizationPolicy} {res : Option (ContractResponse C)}
    (h : k.migrateContract ctx a caller newCodeID msg authZ w = (.ok (info, res), w')) :
    w'.ms.wasm.getContractInfo a = some info := by
  obtain ⟨old, -, codeInfo, last, position, -, -, -, -, -, -, -, -, hregistry, -, -⟩ :=
    migrateContract_ok h
  have hget := congrArg (·.getContractInfo a) hregistry
  exact hget.trans (WasmStore.getContractInfo_storeContractInfo_self _ _ _)

end Stored

/-! ### Calls with their responses -/

section Run

variable {k : Keeper ε C} {w w' : World (Multistore ε) Shared}
  {handler : Response SdkContext C → KeeperM ε (Option Bytes)}

/-- The events of a response, and then the handler. -/
theorem handleContractResponse_run_ok {ctx : SdkContext} {a : AccAddress} {entry : EntryPoint}
    {port : String} {wrap : GoError → GoError} {res : ContractResponse C} {data rsp : Option Bytes}
    (h : (k.handleContractResponse ctx a entry port wrap res data).run handler w = (.ok rsp, w')) :
    ∃ w₁, k.emitResponse ctx a res.attributes res.events w = (.ok ctx.deeper, w₁) ∧
      w₁.ms.wasm = w.ms.wasm ∧
      handler ⟨ctx.deeper, a, entry, port, res.messages, data⟩ w₁ = (.ok rsp, w') := by
  obtain ⟨ctx', w₁, hemit, h₁⟩ := GoM.bind_ok_iff.mp h
  obtain ⟨rsp', w₂, hhandled, h₂⟩ := GoM.bind_ok_iff.mp h₁
  obtain ⟨rfl, rfl⟩ := GoM.pure_ok_iff.mp h₂
  obtain ⟨rfl, -, hstore⟩ := emitResponse_ok (GoM.mapError_ok_iff.mp hemit)
  exact ⟨w₁, GoM.mapError_ok_iff.mp hemit, hstore, GoM.mapError_ok_iff.mp hhandled⟩

theorem instantiate_run_ok {ctx : SdkContext} {codeID : UInt64} {creator admin : Option AccAddress}
    {initMsg : Bytes} {label : String} {deposit : Coins.CoinSet} {g : AddressGenerator}
    {policy : AuthorizationPolicy} {out : AccAddress × Option Bytes}
    (h : (k.instantiate ctx codeID creator admin initMsg label deposit g policy).run handler w
      = (.ok out, w')) :
    ∃ new w₁, k.newInstance ctx codeID creator admin initMsg label deposit g policy w
        = (.ok new, w₁) ∧
      ∃ r w₂ rsp, w₂.ms.wasm = w₁.ms.wasm ∧ handler r w₂ = (.ok rsp, w') := by
  obtain ⟨⟨a, info, res⟩, w₁, hnew, h₁⟩ := GoM.bind_ok_iff.mp h
  refine ⟨_, w₁, hnew, ?_⟩
  obtain ⟨ctx', w₂, hemit, h₂⟩ := GoM.bind_ok_iff.mp h₁
  obtain ⟨rsp, w₃, hhandled, h₃⟩ := GoM.bind_ok_iff.mp h₂
  obtain ⟨-, rfl⟩ := GoM.pure_ok_iff.mp h₃
  obtain ⟨-, -, hstore⟩ := emitResponse_ok (GoM.mapError_ok_iff.mp hemit)
  exact ⟨_, w₂, rsp, hstore, GoM.mapError_ok_iff.mp hhandled⟩

theorem migrate_run_ok {ctx : SdkContext} {a caller : AccAddress} {newCodeID : UInt64} {msg : Bytes}
    {policy : AuthorizationPolicy} {out : Option Bytes}
    (h : (k.migrate ctx a caller newCodeID msg policy).run handler w = (.ok out, w')) :
    ∃ new w₁, k.migrateContract ctx a caller newCodeID msg policy w = (.ok new, w₁) ∧
      (w' = w₁ ∨ ∃ r w₂ rsp, w₂.ms.wasm = w₁.ms.wasm ∧ handler r w₂ = (.ok rsp, w')) := by
  obtain ⟨⟨info, _ | res⟩, w₁, hmig, h₁⟩ := GoM.bind_ok_iff.mp h
  · exact ⟨_, w₁, hmig, .inl (GoM.pure_ok_iff.mp h₁).2⟩
  · obtain ⟨w₂, -, hstore, hhandled⟩ := handleContractResponse_run_ok h₁
    exact ⟨_, w₁, hmig, .inr ⟨_, w₂, _, hstore, hhandled⟩⟩

end Run

/-! ## Calls that run a contract -/

/-- A call that changes nothing of the module, or only the storage of a stored contract, whose code
was called and answered if the call succeeds. -/
inductive Runs (k : Keeper ε C) (x : KeeperM ε α) : Prop
  | noContract : Stays noContract x → Runs k x
  | contract (a : AccAddress) : Stays (· = a) x →
      (∀ w b w', x w = (.ok b, w') → Answers k a w.ms.wasm w'.ms.wasm) → Runs k x

namespace Runs

variable {k : Keeper ε C} {x : KeeperM ε α}

theorem edits {sim : Bool} (h : Runs k x) : Edits k sim x := by
  cases h with
  | noContract hx => exact .of_stays hx
  | contract a hx hanswers => exact .of_run hx fun w b w' h => (hanswers w b w' h).stored

/-- Nothing of the registry changed. -/
theorem registry {w w' : World (Multistore ε) Shared} {r : Except (Failure GoError) α}
    (h : Runs k x) (hx : x w = (r, w')) : w'.ms.wasm.registry = w.ms.wasm.registry := by
  cases h with
  | noContract hs => exact (hs.confined hx).registry
  | contract a hs hanswers => exact (hs.confined hx).registry

end Runs

theorem runExecute_runs {k : Keeper ε C} (ctx : SdkContext) (contract caller : AccAddress)
    (msg : Bytes) (coins : Coins.CoinSet) : Runs k (k.runExecute ctx contract caller msg coins) :=
  .contract contract (runExecute_stays k _ _ _ _ _) fun _ _ _ h => runExecute_answers h

theorem runContract_runs {k : Keeper ε C} (ctx : SdkContext) (contract : AccAddress)
    {input : VMInput} (vmFailed : Registered) (hinput : input.isCall = true) :
    Runs k (k.runContract ctx contract input vmFailed) :=
  .contract contract (runContract_stays k _ _ _ _) fun _ _ _ h => runContract_answers hinput h

theorem acceptPacket_runs {k : Keeper ε C} (ctx : SdkContext) (contract : AccAddress)
    {input : VMInput} (hinput : input.isCall = true) : Runs k (k.acceptPacket ctx contract input) :=
  .contract contract (acceptPacket_stays k _ _ _) fun _ _ _ h => acceptPacket_answers hinput h

/-! ## Calls that make changes -/

section Conduct

variable (k : Keeper ε C) (sim : Bool) (mark : Guarded → World (Multistore ε) Shared → Prop)
  (response : Response SdkContext C → World (Multistore ε) Shared → Prop)

/-- Calls make changes only. -/
def movesConduct : Conduct (Multistore ε) Shared SdkContext C Guarded where
  call x w := MovesAt k sim x w
  mark := mark
  response := response
  after w w' := Changes k sim w.durable w'.durable

theorem movesConduct_lawful : (movesConduct k sim mark response).Lawful where
  ofExcept r w := Moves.of_stays (Stays.ofExcept r) w
  bind := MovesAt.bind
  mapError := MovesAt.mapError
  sandbox d addr ibcPort msg _ hm := MovesAt.sandbox d addr ibcPort msg hm
  refl _ := .refl
  trans := .trans
  frame _ _ _ := .refl
  of_ok hx h := (hx _ _ h).2 _ rfl

/-- What is asked of calls is met by those that change nothing of the module. -/
class Conduct.Plain (D : Conduct (Multistore ε) Shared SdkContext C Guarded) : Prop
    extends D.Lawful where
  stays : ∀ {β : Type} {x : KeeperM ε β} {w : World (Multistore ε) Shared}, Stays noContract x →
    D.call x w

/-- What is asked of calls is met by those that change nothing of the module but the storage of a
contract that runs and answers. -/
class Conduct.Hosts (D : Conduct (Multistore ε) Shared SdkContext C Guarded) (k : Keeper ε C) : Prop
    extends D.Plain where
  runs : ∀ {β : Type} {x : KeeperM ε β} {w : World (Multistore ε) Shared}, Runs k x → D.call x w

/-- What is asked of calls is met by the operations. -/
class Conduct.Admits (D : Conduct (Multistore ε) Shared SdkContext C Guarded)
    (k : outParam (Keeper ε C)) (sim : outParam Bool) : Prop extends D.Lawful where
  edits : ∀ {β : Type} {x : KeeperM ε β} {w : World (Multistore ε) Shared}, Edits k sim x →
    D.call x w

instance movesConduct_admits : (movesConduct k sim mark response).Admits k sim where
  toLawful := movesConduct_lawful k sim mark response
  edits h := h.moves _

instance Conduct.Admits.hosts {D : Conduct (Multistore ε) Shared SdkContext C Guarded}
    {k : Keeper ε C} {sim : Bool} [hD : D.Admits k sim] : D.Hosts k where
  toLawful := hD.toLawful
  stays h := hD.edits (.of_stays h)
  runs h := hD.edits h.edits

end Conduct

/-! ## Calls that keep a relation of the stores -/

/-- A relation of stores that sees neither the storage of contracts nor the packets that wait, and
whose steps add up. -/
class Tracks (R : WasmStore → WasmStore → Prop) : Prop where
  registry : ∀ {s s' : WasmStore}, s'.registry = s.registry → R s s'
  asyncAcks : ∀ (s : WasmStore) (packets : KVStore Packet), R s { s with asyncAcks := packets }
  trans : ∀ {s₁ s₂ s₃ : WasmStore}, R s₁ s₂ → R s₂ s₃ → R s₁ s₃

section Stores

variable {R : WasmStore → WasmStore → Prop} [hR : Tracks R]
  {mark : Guarded → World (Multistore ε) Shared → Prop}
  {response : Response SdkContext C → World (Multistore ε) Shared → Prop}
include hR

theorem Tracks.refl (s : WasmStore) : R s s := hR.registry rfl

omit hR in
/-- Calls that succeed keep the relation. -/
def storeConduct (R : WasmStore → WasmStore → Prop)
    (mark : Guarded → World (Multistore ε) Shared → Prop)
    (response : Response SdkContext C → World (Multistore ε) Shared → Prop) :
    Conduct (Multistore ε) Shared SdkContext C Guarded where
  call x w := ∀ a w', x w = (.ok a, w') → R w.ms.wasm w'.ms.wasm
  mark := mark
  response := response
  after w w' := R w.ms.wasm w'.ms.wasm

instance storeConduct_plain : (storeConduct R mark response).Plain where
  ofExcept r w a w' h := by
    obtain ⟨-, rfl⟩ := GoM.ofExcept_ok_iff.mp h
    exact Tracks.refl _
  bind hx hf b w' h := by
    obtain ⟨a, w₁, h₁, h₂⟩ := GoM.bind_ok_iff.mp h
    exact hR.trans (hx a w₁ h₁) (hf a w₁ h₁ b w' h₂)
  mapError hx a w' h := hx a w' (GoM.mapError_ok_iff.mp h)
  sandbox d addr ibcPort msg w hm outcome w' h := by
    obtain ⟨gas, r₀, w₀, hmsg, -, hms⟩ := MessageDispatcher.sandbox_world h
    rcases hms with ⟨⟨a, rfl⟩, hms⟩ | hms
    · rw [hms]
      exact hm gas a w₀ hmsg
    · rw [hms]
      exact Tracks.refl _
  refl w := Tracks.refl _
  trans := hR.trans
  frame w gas events := Tracks.refl _
  of_ok hx h := hx _ _ h
  stays hx a w' h := hR.registry (hx.confined h).registry

instance storeConduct_hosts (k : Keeper ε C) : (storeConduct R mark response).Hosts k where
  toPlain := storeConduct_plain
  runs hx _ _ h := hR.registry (hx.registry h)

/-- A relation that every change keeps. -/
theorem storeConduct_admits {k : Keeper ε C} {sim : Bool}
    (h : ∀ {d d' : Durable}, Changes k sim d d' → R d.store d'.store) :
    (storeConduct R mark response).Admits k sim where
  toLawful := storeConduct_plain.toLawful
  edits hx _ _ hok := h ((hx.moves _ _ _ hok).2 _ rfl)

end Stores

section Scripts

variable {k : Keeper ε C} {sim : Bool} {mark : Guarded → World (Multistore ε) Shared → Prop}
  {response : Response SdkContext C → World (Multistore ε) Shared → Prop}
  {w : World (Multistore ε) Shared}

theorem Script.Reaches.attempt {handler : Response SdkContext C → KeeperM ε (Option Bytes)}
    {x : Except GoError α} {a : α} {f : α → KeeperScript ε C β} {w' : World (Multistore ε) Shared}
    {p : Script.Point SdkContext C Guarded} (hx : x = .ok a) (h : (f a).Reaches handler w p w') :
    (Wasmd.attempt x >>= f).Reaches handler w p w' :=
  .step (orError_ok_iff.mpr ⟨hx, rfl⟩) h

section Plain

variable {D : Conduct (Multistore ε) Shared SdkContext C Guarded} [hD : D.Plain]
include hD

theorem attempt_sound {x : Except GoError α} {f : α → KeeperScript ε C β}
    (hf : ∀ a, x = .ok a → (f a).Sound D w) : (attempt x >>= f).Sound D w := by
  refine ⟨hD.stays (Stays.orError _), fun a w' hx => ?_⟩
  obtain ⟨ha, rfl⟩ := orError_ok_iff.mp hx
  exact hf a ha

omit hD in
theorem lift_sound {x : KeeperM ε α} {f : α → KeeperScript ε C β} (hx : D.call x w)
    (hf : ∀ a w', x w = (.ok a, w') → (f a).Sound D w') : (Script.lift x >>= f).Sound D w :=
  ⟨hx, hf⟩

omit hD in
theorem guarded_sound {op : Operation} {policy : AuthorizationPolicy} {x : KeeperM ε α}
    {f : α → KeeperScript ε C β} (hm : D.mark ⟨op, policy⟩ w) (hx : D.call x w)
    (hf : ∀ a w', x w = (.ok a, w') → (f a).Sound D w') : (guarded op policy x >>= f).Sound D w :=
  ⟨hm, hx, hf⟩

/-- A response that is handed on unchanged. -/
theorem handleContractResponse_sound {ctx : SdkContext} {a : AccAddress} {entry : EntryPoint}
    {port : String} {wrap : GoError → GoError} {res : ContractResponse C} {data : Option Bytes}
    (hr : ∀ r w', OnContext k ctx r → r.contract = a → r.entry = entry → r.ibcPort = port →
      w'.ms.wasm = w.ms.wasm → D.response r w') :
    (k.handleContractResponse ctx a entry port wrap res data).Sound D w := by
  refine ⟨hD.stays (Stays.mapError (emitResponse_stays k _ _ _ _)), fun ctx' w' hx => ?_⟩
  obtain ⟨rfl, hle, hstore⟩ := emitResponse_ok (GoM.mapError_ok_iff.mp hx)
  exact ⟨hr _ w' ⟨rfl, hle⟩ rfl rfl rfl hstore, fun _ _ _ => trivial⟩

/-- A response of a stored contract with the port of its entry point. -/
theorem answer_sound {ctx : SdkContext} {a : AccAddress} {entry : EntryPoint} {port : String}
    {info : ContractInfo} {wrap : GoError → GoError} {res : ContractResponse C}
    {data : Option Bytes} (hinfo : w.ms.wasm.getContractInfo a = some info)
    (hport : port = entry.port info) (hr : ∀ r w', Answered k ctx r w' → D.response r w') :
    (k.handleContractResponse ctx a entry port wrap res data).Sound D w := by
  refine handleContractResponse_sound fun r w' hctx ha hentry heq hstore =>
    hr r w' ⟨hctx, info, ?_, ?_⟩
  · rw [ha, hstore, hinfo]
  · rw [heq, hentry, hport]

/-- `instantiate`, when its call complies. -/
theorem instantiate_served {ctx : SdkContext} {codeID : UInt64} {creator admin : Option AccAddress}
    {initMsg : Bytes} {label : String} {deposit : Coins.CoinSet} {g : AddressGenerator}
    {policy : AuthorizationPolicy} (hm : D.mark ⟨.instantiate, policy⟩ w)
    (hx : D.call (k.newInstance ctx codeID creator admin initMsg label deposit g policy) w)
    (hr : ∀ r w', Answered k (ctx.withSubMsgAuthzPolicy
      (policy.subMessageAuthorizationPolicy .instantiate)) r w' → D.response r w') :
    (k.instantiate ctx codeID creator admin initMsg label deposit g policy).Sound D w := by
  refine ⟨hm, hx, fun out w' h => ?_⟩
  obtain ⟨a, info, res⟩ := out
  have hrest : (k.handleContractResponse (ctx.withSubMsgAuthzPolicy
      (policy.subMessageAuthorizationPolicy .instantiate)) a .instantiate info.ibcPortID
      (.wrapped "dispatch") res res.data >>= fun data => pure (a, data)).Sound D w' :=
    Script.sound_bind hD.toLawful (answer_sound (newInstance_stored h) rfl hr) fun _ _ _ => trivial
  exact hrest

/-- `migrate`, when its call complies. -/
theorem migrate_served {ctx : SdkContext} {a caller : AccAddress} {newCodeID : UInt64} {msg : Bytes}
    {policy : AuthorizationPolicy} (hm : D.mark ⟨.migrate, policy⟩ w)
    (hx : D.call (k.migrateContract ctx a caller newCodeID msg policy) w)
    (hr : ∀ r w', Answered k (ctx.withSubMsgAuthzPolicy
      (policy.subMessageAuthorizationPolicy .migrateContract)) r w' → D.response r w') :
    (k.migrate ctx a caller newCodeID msg policy).Sound D w := by
  refine ⟨hm, hx, fun out w' h => ?_⟩
  obtain ⟨info, _ | res⟩ := out
  · trivial
  · exact answer_sound (migrateContract_stored h) rfl hr

/-- A received packet, with what follows the response. -/
theorem runReceive_served {entry : EntryPoint} {port : ContractInfo → String} {input : VMInput}
    {ctx : SdkContext} {a : AccAddress} {failed : String → α}
    {next : Option Bytes → KeeperScript ε C α} (hport : ∀ info, port info = entry.port info)
    (hr : ∀ r w', Answered k ctx r w' → D.response r w')
    (hrun : D.call (k.runReceive ctx a input) w) (hnext : ∀ data w₁, (next data).Sound D w₁) :
    (do
      let (contractInfo, out) ← k.runReceive ctx a input
      match out with
      | .error err => return failed err
      | .ok res => do
        let data ← k.handleContractResponse ctx a entry (port contractInfo) id res res.data
        next data : KeeperScript ε C α).Sound D w := by
  refine ⟨hrun, fun out w₁ h => ?_⟩
  obtain ⟨info, err | res⟩ := out
  · trivial
  · have hrest : (k.handleContractResponse ctx a entry (port info) id res res.data >>= next).Sound D
        w₁ :=
      Script.sound_bind hD.toLawful (answer_sound (runReceive_stored h) (hport info) hr)
        fun data w₂ _ => hnext data w₂
    exact hrest

end Plain

section Hosts

variable {D : Conduct (Multistore ε) Shared SdkContext C Guarded} [hD : D.Hosts k]
include hD

theorem execute_sound {ctx : SdkContext} {a caller : AccAddress} {msg : Bytes}
    {coins : Coins.CoinSet} (hr : ∀ r w', Answered k ctx r w' → D.response r w') :
    (k.execute ctx a caller msg coins).Sound D w := by
  refine ⟨hD.runs (runExecute_runs _ _ _ _ _), fun out w' h => ?_⟩
  exact answer_sound (runExecute_stored h) rfl hr

/-- `sudo` and `reply`: a run, an event, and the response. -/
theorem runContract_sound {ctx : SdkContext} {a : AccAddress} {input : VMInput}
    {entry : EntryPoint} {vmFailed : Registered} {event : Event} {wrap : GoError → GoError}
    (hinput : input.isCall = true) (hentry : entry.isIBC2 = false)
    (hr : ∀ r w', Answered k ctx r w' → D.response r w') :
    (do
      let (contractInfo, res) ← k.runContract ctx a input vmFailed
      let _ ← (emitEvents [event] : KeeperM ε Unit)
      k.handleContractResponse ctx a entry contractInfo.ibcPortID wrap res res.data :
        KeeperScript ε C (Option Bytes)).Sound D w := by
  refine ⟨hD.runs (runContract_runs _ _ _ hinput), fun out w₁ h => ?_⟩
  refine ⟨hD.stays (Stays.emitEvents _), fun _ w₂ hevents => ?_⟩
  obtain rfl := emitEvents_ok_iff.mp hevents
  have hinfo := runContract_stored h
  exact answer_sound hinfo (by rw [EntryPoint.port, hentry]; rfl) hr

theorem sudoContract_sound {ctx : SdkContext} {a : AccAddress} {msg : Bytes}
    (hr : ∀ r w', Answered k ctx r w' → D.response r w') :
    (k.sudoContract ctx a msg).Sound D w :=
  runContract_sound rfl rfl hr

theorem reply_sound {ctx : SdkContext} {a : AccAddress} {reply : Reply}
    (hr : ∀ r w', Answered k ctx r w' → D.response r w') :
    (k.reply ctx a reply).Sound D w :=
  runContract_sound rfl rfl hr

/-- A callback of IBC without data. -/
theorem basicCallback_sound {port : ContractInfo → String} {input : VMInput} {ctx : SdkContext}
    {a : AccAddress} (hinput : input.isCall = true)
    (hport : ∀ info, port info = input.entryPoint.port info)
    (hr : ∀ r w', Answered k ctx r w' → D.response r w') :
    (k.basicCallback port input ctx a).Sound D w := by
  refine ⟨hD.runs (runContract_runs _ _ _ hinput), fun out w₁ h => ?_⟩
  have hrest : (k.handleContractResponse ctx a input.entryPoint (port out.1) id out.2 none >>=
      fun _ => pure ()).Sound D w₁ :=
    Script.sound_bind hD.toLawful (answer_sound (runContract_stored h) (hport _) hr)
      fun _ _ _ => trivial
  exact hrest

theorem callback_sound {ctx : SdkContext} {a : AccAddress} {msg : IBCMsg} {callback : BasicCallback}
    (hr : ∀ r w', Answered k ctx r w' → D.response r w') :
    (k.callback ctx a msg callback).Sound D w := by
  cases callback <;> exact basicCallback_sound rfl (fun _ => rfl) hr

end Hosts

section Admits

variable {D : Conduct (Multistore ε) Shared SdkContext C Guarded} [hD : D.Admits k sim]
include hD

theorem instantiate_sound {ctx : SdkContext} {codeID : UInt64} {creator admin : Option AccAddress}
    {initMsg : Bytes} {label : String} {deposit : Coins.CoinSet} {g : AddressGenerator}
    {policy : AuthorizationPolicy} (hm : D.mark ⟨.instantiate, policy⟩ w)
    (hr : ∀ r w', Answered k (ctx.withSubMsgAuthzPolicy
      (policy.subMessageAuthorizationPolicy .instantiate)) r w' → D.response r w') :
    (k.instantiate ctx codeID creator admin initMsg label deposit g policy).Sound D w :=
  instantiate_served hm (hD.edits (newInstance_edits _ _ _ _ _ _ _ _ _)) hr

theorem migrate_sound {ctx : SdkContext} {a caller : AccAddress} {newCodeID : UInt64} {msg : Bytes}
    {policy : AuthorizationPolicy} (hm : D.mark ⟨.migrate, policy⟩ w)
    (hr : ∀ r w', Answered k (ctx.withSubMsgAuthzPolicy
      (policy.subMessageAuthorizationPolicy .migrateContract)) r w' → D.response r w') :
    (k.migrate ctx a caller newCodeID msg policy).Sound D w :=
  migrate_served hm (hD.edits (migrateContract_edits _ _ _ _ _ _)) hr

/-- A received packet makes changes, if what follows the response does. -/
theorem runReceive_sound {entry : EntryPoint} {port : ContractInfo → String} {input : VMInput}
    {ctx : SdkContext} {a : AccAddress} {failed : String → α}
    {next : Option Bytes → KeeperScript ε C α} (hport : ∀ info, port info = entry.port info)
    (hr : ∀ r w', Answered k ctx r w' → D.response r w')
    (hnext : ∀ data w₁, (next data).Sound D w₁) :
    (do
      let (contractInfo, out) ← k.runReceive ctx a input
      match out with
      | .error err => return failed err
      | .ok res => do
        let data ← k.handleContractResponse ctx a entry (port contractInfo) id res res.data
        next data : KeeperScript ε C α).Sound D w :=
  runReceive_served hport hr (hD.edits (runReceive_edits _ _ _)) hnext

end Admits

/-! ## The message server -/

theorem setParams_edits (params : Params) : Edits k sim (setParams params) := by
  refine .of_change (writeStore_keepsFiles _) fun w u w' h => ?_
  obtain rfl := writeStore_ok_iff.mp h
  exact ⟨.params params rfl ⟨rfl, rfl⟩, rfl⟩

theorem editUploadAddresses_edits (edit : List String → List String) :
    Edits k sim (editUploadAddresses edit) :=
  (Edits.of_stays getParams_stays).bind fun _ => (Edits.of_stays (Stays.ensure _ _)).bind fun _ =>
    setParams_edits _

theorem Edits.forEach {l : List α} {body : α → KeeperM ε Unit}
    (h : ∀ a, Edits k sim (body a)) : Edits k sim (GoM.forEach l body) := by
  induction l with
  | nil => exact .of_stays (Stays.pure ())
  | cons a rest ih => exact (h a).bind fun _ => ih

theorem setContractAdmin_edits (a caller : AccAddress) (newAdmin : Option AccAddress)
    (policy : AuthorizationPolicy) : Edits k sim (k.setContractAdmin a caller newAdmin policy) :=
  modifyContract_edits _ _ _ _ _ fun _ => ⟨rfl, rfl, rfl, rfl, rfl⟩

theorem setContractLabel_edits (a caller : AccAddress) (newLabel : String)
    (policy : AuthorizationPolicy) : Edits k sim (k.setContractLabel a caller newLabel policy) :=
  modifyContract_edits _ _ _ _ _ fun _ => ⟨rfl, rfl, rfl, rfl, rfl⟩

/-- The action of a message that changes the policy of the submessages below it. -/
def WasmMsg.action? : WasmMsg → Option AuthorizationPolicyAction
  | instantiateContract .. | instantiateContract2 .. | storeAndInstantiateContract .. =>
    some .instantiate
  | migrateContract .. | storeAndMigrateContract .. => some .migrateContract
  | _ => none

/-- The context of the calls that a message makes. -/
def Keeper.callContext (k : Keeper ε C) (ctx : SdkContext) (msg : WasmMsg) : SdkContext :=
  match msg.action? with
  | some action => ctx.withSubMsgAuthzPolicy
      ((k.selectAuthorizationPolicy ctx msg.signer).subMessageAuthorizationPolicy action)
  | none => ctx

/-! ### What is served -/

/-- **What serving a message asks of the keeper**, and what has been checked by then: the sender is
decoded from the message and the policy chosen for it, what is to be stored is valid, and what only
the authority may do is asked by the authority. -/
inductive Served (k : Keeper ε C) (lib : MsgLib) (ctx : SdkContext) (msg : WasmMsg) :
    ∀ {β : Type}, KeeperM ε β → Prop
  | create (sender : AccAddress) (code : Bytes) (access : Option AccessConfig)
      (hsender : k.codec.accAddressFromBech32 msg.signer = .ok sender)
      (haccess : validatePermission k.codec access = .ok ()) :
      Served k lib ctx msg (k.create ctx (some sender) code access
        (k.selectAuthorizationPolicy ctx msg.signer))
  | newInstance (sender : AccAddress) (admin : Option AccAddress) (codeID : UInt64) (label : String)
      (initMsg : Bytes) (deposit : Coins.CoinSet) (g : AddressGenerator)
      (hsender : k.codec.accAddressFromBech32 msg.signer = .ok sender)
      (hlabel : lib.validateLabel label = .ok ()) (hinit : lib.jsonValid initMsg = true) :
      Served k lib ctx msg (k.newInstance ctx codeID (some sender) admin initMsg label deposit g
        (k.selectAuthorizationPolicy ctx msg.signer))
  | migrateContract (sender contract : AccAddress) (codeID : UInt64) (payload : Bytes)
      (hsender : k.codec.accAddressFromBech32 msg.signer = .ok sender)
      (hpayload : lib.jsonValid payload = true) :
      Served k lib ctx msg (k.migrateContract ctx contract sender codeID payload
        (k.selectAuthorizationPolicy ctx msg.signer))
  | setContractAdmin (sender contract : AccAddress) (newAdmin : Option AccAddress)
      (hsender : k.codec.accAddressFromBech32 msg.signer = .ok sender) :
      Served k lib ctx msg (k.setContractAdmin contract sender newAdmin
        (k.selectAuthorizationPolicy ctx msg.signer))
  | setContractLabel (sender contract : AccAddress) (newLabel : String)
      (hsender : k.codec.accAddressFromBech32 msg.signer = .ok sender)
      (hlabel : lib.validateLabel newLabel = .ok ()) :
      Served k lib ctx msg (k.setContractLabel contract sender newLabel
        (k.selectAuthorizationPolicy ctx msg.signer))
  | setAccessConfig (sender : AccAddress) (codeID : UInt64) (config : AccessConfig)
      (hsender : k.codec.accAddressFromBech32 msg.signer = .ok sender)
      (hconfig : config.validateBasic k.codec = .ok ()) :
      Served k lib ctx msg (k.setAccessConfig codeID sender config
        (k.selectAuthorizationPolicy ctx msg.signer))
  | setParams (params : Params) (hauthority : k.IsAuthority ctx msg.signer)
      (hparams : params.validateBasic k.codec = .ok ()) : Served k lib ctx msg (setParams params)
  | editUploadAddresses (edit : List String → List String)
      (hauthority : k.IsAuthority ctx msg.signer) : Served k lib ctx msg (editUploadAddresses edit)
  | pinCodes (codeIDs : List UInt64) (hauthority : k.IsAuthority ctx msg.signer) :
      Served k lib ctx msg (GoM.forEach codeIDs k.pinCode)
  | unpinCodes (codeIDs : List UInt64) (hauthority : k.IsAuthority ctx msg.signer) :
      Served k lib ctx msg (GoM.forEach codeIDs k.unpinCode)

/-- What is served makes changes. -/
theorem Served.edits {lib : MsgLib} {ctx : SdkContext} {msg : WasmMsg} {x : KeeperM ε α}
    (hsim : ctx.simulate = true → sim = true) (h : Served k lib ctx msg x) : Edits k sim x := by
  cases h with
  | create sender code access => exact create_edits hsim _ _ _ _
  | newInstance sender admin codeID label initMsg deposit g =>
      exact newInstance_edits _ _ _ _ _ _ _ _ _
  | migrateContract sender contract codeID payload => exact migrateContract_edits _ _ _ _ _ _
  | setContractAdmin sender contract newAdmin => exact setContractAdmin_edits _ _ _ _
  | setContractLabel sender contract newLabel => exact setContractLabel_edits _ _ _ _
  | setAccessConfig sender codeID config => exact setAccessConfig_edits _ _ _ _
  | setParams params => exact setParams_edits _
  | editUploadAddresses edit => exact editUploadAddresses_edits _
  | pinCodes codeIDs => exact .forEach pinCode_edits
  | unpinCodes codeIDs => exact .forEach unpinCode_edits

/-! ### Validated messages -/

theorem decodeAddress_ok {codec : AddressCodec} {field addr : String} {a : AccAddress}
    (h : decodeAddress codec field addr = .ok a) : codec.accAddressFromBech32 addr = .ok a :=
  except_mapError_ok_iff.mp h

theorem validatePayload_ok {lib : MsgLib} {payload : Bytes} {u : Unit}
    (h : lib.validatePayload payload = .ok u) : lib.jsonValid payload = true := by
  unfold MsgLib.validatePayload at h
  split at h
  · assumption
  · cases h

/-- **A message of the module**: what it asks of the keeper is served, its operations run under the
policy of the signer, and a response comes from a call on its context. -/
theorem msgServer_served {D : Conduct (Multistore ε) Shared SdkContext C Guarded} [hD : D.Hosts k]
    {lib : MsgLib} {ctx : SdkContext} {msg : WasmMsg}
    (hcall : ∀ {β : Type} {x : KeeperM ε β} w', D.after w w' → Served k lib ctx msg x → D.call x w')
    (hm : ∀ op w', D.mark ⟨op, k.selectAuthorizationPolicy ctx msg.signer⟩ w')
    (hr : ∀ r w', Answered k (k.callContext ctx msg) r w' → D.response r w') :
    (k.msgServer lib ctx msg).Sound D w := by
  have hlaw := hD.toLawful
  have hhere : D.after w w := hlaw.refl w
  cases msg with
  | storeCode sender code access =>
      refine attempt_sound fun _ hvalid => attempt_sound fun addr haddr => ?_
      simp only [WasmMsg.validateBasic, except_bind_ok_iff] at hvalid
      obtain ⟨_, -, _, -, haccess⟩ := hvalid
      exact guarded_sound (hm _ _) (hcall w hhere (.create addr code access (decodeAddress_ok haddr)
        haccess)) fun _ _ _ => trivial
  | instantiateContract sender admin codeID label initMsg funds =>
      refine attempt_sound fun _ hvalid => attempt_sound fun addr haddr =>
        attempt_sound fun adminAddr _ => ?_
      simp only [WasmMsg.validateBasic, except_bind_ok_iff, except_mapError_ok_iff] at hvalid
      obtain ⟨_, -, _, -, _, hlabel, _, -, _, -, hpayload⟩ := hvalid
      exact Script.sound_bind hlaw (instantiate_served (hm _ _) (hcall w hhere (.newInstance
        addr _ _ label initMsg _ _ (decodeAddress_ok haddr) hlabel (validatePayload_ok hpayload)))
        hr) fun _ _ _ => trivial
  | instantiateContract2 sender admin codeID label initMsg funds salt fixMsg =>
      refine attempt_sound fun _ hvalid => attempt_sound fun addr haddr =>
        attempt_sound fun adminAddr _ => ?_
      simp only [WasmMsg.validateBasic, except_bind_ok_iff, except_mapError_ok_iff] at hvalid
      obtain ⟨_, -, _, -, _, hlabel, _, -, _, -, _, hpayload, -⟩ := hvalid
      exact Script.sound_bind hlaw (instantiate_served (hm _ _) (hcall w hhere (.newInstance
        addr _ _ label initMsg _ _ (decodeAddress_ok haddr) hlabel (validatePayload_ok hpayload)))
        hr) fun _ _ _ => trivial
  | executeContract sender contract payload funds =>
      exact attempt_sound fun _ _ => attempt_sound fun _ _ => attempt_sound fun _ _ =>
        Script.sound_bind hlaw (execute_sound hr) fun _ _ _ => trivial
  | migrateContract sender contract codeID payload =>
      refine attempt_sound fun _ hvalid => attempt_sound fun addr haddr =>
        attempt_sound fun contractAddr _ => ?_
      simp only [WasmMsg.validateBasic, except_bind_ok_iff] at hvalid
      obtain ⟨_, -, _, -, _, -, hpayload⟩ := hvalid
      exact Script.sound_bind hlaw (migrate_served (hm _ _) (hcall w hhere (.migrateContract
        addr _ _ payload (decodeAddress_ok haddr) (validatePayload_ok hpayload))) hr)
        fun _ _ _ => trivial
  | updateAdmin sender newAdmin contract =>
      exact attempt_sound fun _ _ => attempt_sound fun addr haddr => attempt_sound fun _ _ =>
        attempt_sound fun _ _ => guarded_sound (hm _ _) (hcall w hhere (.setContractAdmin addr _ _
          (decodeAddress_ok haddr))) fun _ _ _ => trivial
  | clearAdmin sender contract =>
      exact attempt_sound fun _ _ => attempt_sound fun addr haddr => attempt_sound fun _ _ =>
        guarded_sound (hm _ _) (hcall w hhere (.setContractAdmin addr _ _ (decodeAddress_ok haddr)))
          fun _ _ _ => trivial
  | updateInstantiateConfig sender codeID access =>
      refine attempt_sound fun _ hvalid => attempt_sound fun addr haddr =>
        lift_sound (hD.stays (Stays.ofOptionPanic _ _)) fun config w₁ hsome => ?_
      obtain ⟨rfl, rfl⟩ := GoM.ofOptionPanic_ok_iff.mp hsome
      simp only [WasmMsg.validateBasic, except_bind_ok_iff, validatePermission,
        except_mapError_ok_iff] at hvalid
      obtain ⟨_, -, _, -, hconfig⟩ := hvalid
      exact guarded_sound (hm _ _) (hcall w₁ hhere (.setAccessConfig addr _ config
        (decodeAddress_ok haddr) hconfig)) fun _ _ _ => trivial
  | updateParams authority params =>
      refine attempt_sound fun _ hvalid => attempt_sound fun _ hauthority => ?_
      simp only [WasmMsg.validateBasic, except_bind_ok_iff] at hvalid
      obtain ⟨_, -, hparams⟩ := hvalid
      exact lift_sound (hcall w hhere (.setParams params hauthority hparams))
        fun _ _ _ => trivial
  | sudoContract authority contract payload =>
      exact attempt_sound fun _ _ => attempt_sound fun _ _ => attempt_sound fun _ _ =>
        Script.sound_bind hlaw (sudoContract_sound hr) fun _ _ _ => trivial
  | pinCodes authority codeIDs =>
      exact attempt_sound fun _ _ => attempt_sound fun _ hauthority =>
        lift_sound (hcall w hhere (.pinCodes codeIDs hauthority))
          fun _ _ _ => trivial
  | unpinCodes authority codeIDs =>
      exact attempt_sound fun _ _ => attempt_sound fun _ hauthority =>
        lift_sound (hcall w hhere (.unpinCodes codeIDs hauthority))
          fun _ _ _ => trivial
  | storeAndInstantiateContract authority code access admin label payload funds source builder
      codeHash =>
      refine attempt_sound fun _ hvalid => attempt_sound fun addr haddr =>
        attempt_sound fun adminAddr _ => ?_
      simp only [WasmMsg.validateBasic, except_bind_ok_iff, except_mapError_ok_iff] at hvalid
      obtain ⟨_, -, _, hlabel, _, -, _, -, _, -, _, hpayload, _, -, haccess⟩ := hvalid
      have hcreate := hcall w hhere (.create addr code access (decodeAddress_ok haddr) haccess)
      refine guarded_sound (hm _ _) hcreate fun _ w₁ hcreated => ?_
      exact Script.sound_bind hlaw (instantiate_served (hm _ _) (hcall w₁
        (hlaw.of_ok hcreate hcreated) (.newInstance addr _ _ label payload _ _
          (decodeAddress_ok haddr) hlabel (validatePayload_ok hpayload))) hr) fun _ _ _ => trivial
  | addCodeUploadParamsAddresses authority addresses =>
      exact attempt_sound fun _ _ => attempt_sound fun _ hauthority =>
        lift_sound (hcall w hhere (.editUploadAddresses _ hauthority))
          fun _ _ _ => trivial
  | removeCodeUploadParamsAddresses authority addresses =>
      exact attempt_sound fun _ _ => attempt_sound fun _ hauthority =>
        lift_sound (hcall w hhere (.editUploadAddresses _ hauthority))
          fun _ _ _ => trivial
  | storeAndMigrateContract authority code access contract payload =>
      refine attempt_sound fun addr haddr => attempt_sound fun _ hvalid => ?_
      simp only [WasmMsg.validateBasic, except_bind_ok_iff] at hvalid
      obtain ⟨_, -, _, -, _, hpayload, _, -, haccess⟩ := hvalid
      have hcreate := hcall w hhere (.create addr code access (decodeAddress_ok haddr) haccess)
      refine guarded_sound (hm _ _) hcreate fun _ w₁ hcreated => attempt_sound fun _ _ => ?_
      exact Script.sound_bind hlaw (migrate_served (hm _ _) (hcall w₁ (hlaw.of_ok hcreate hcreated)
        (.migrateContract addr _ _ payload (decodeAddress_ok haddr) (validatePayload_ok hpayload)))
        hr) fun _ _ _ => trivial
  | updateContractLabel sender newLabel contract =>
      refine attempt_sound fun _ hvalid => attempt_sound fun addr haddr =>
        attempt_sound fun contractAddr _ => ?_
      simp only [WasmMsg.validateBasic, except_bind_ok_iff, except_mapError_ok_iff] at hvalid
      obtain ⟨_, -, _, hlabel, -⟩ := hvalid
      exact guarded_sound (hm _ _) (hcall w hhere (.setContractLabel addr _ newLabel
        (decodeAddress_ok haddr) hlabel)) fun _ _ _ => trivial

/-- A message of the module makes changes. -/
theorem msgServer_sound {D : Conduct (Multistore ε) Shared SdkContext C Guarded}
    [hD : D.Admits k sim] {lib : MsgLib} {ctx : SdkContext}
    (hsim : ctx.simulate = true → sim = true) {msg : WasmMsg}
    (hm : ∀ op w', D.mark ⟨op, k.selectAuthorizationPolicy ctx msg.signer⟩ w')
    (hr : ∀ r w', Answered k (k.callContext ctx msg) r w' → D.response r w') :
    (k.msgServer lib ctx msg).Sound D w :=
  msgServer_served (fun _ _ h => hD.edits (h.edits hsim)) hm hr

/-! ## Messages of contracts -/

theorem takeEvents_stays : Stays noContract (takeEvents : KeeperM ε (List Event)) :=
  Stays.of_state fun _ => ⟨rfl, rfl, rfl⟩

theorem swapEvents_stays (saved : List Event) : Stays noContract (swapEvents saved : KeeperM ε _) :=
  Stays.of_state fun _ => ⟨rfl, rfl, rfl⟩

/-- The messages that are served while a message of the contract is handled: the contract signs
them, or another module routes them. -/
def Messenger.Sends (m : Messenger ε C) (k : Keeper ε C) (contract : AccAddress) (msg : WasmMsg) :
    Prop :=
  k.codec.accAddressFromBech32 msg.signer = .ok contract ∨ m.Reenters contract (.message msg)

/-- Other modules route no message that one of `A` signs. -/
def Messenger.RoutesNoneOf (m : Messenger ε C) (A : String → Prop) : Prop :=
  ∀ contract msg, m.Reenters contract (.message msg) → ¬ A msg.signer

theorem onOpenChannel_runs (ctx : SdkContext) (contract : AccAddress) (msg : IBCMsg) :
    Runs k (k.onOpenChannel ctx contract msg) :=
  .contract contract (onOpenChannel_stays k _ _ _) fun _ _ _ h => onOpenChannel_answers h

variable {m : Messenger ε C}

section Hosts

variable {D : Conduct (Multistore ε) Shared SdkContext C Guarded} [hD : D.Hosts k]
  {ctx : SdkContext} {contract : AccAddress}
include hD

/-- A call of another module. -/
theorem reenter_served {c : ReentrantCall} (hc : m.Reenters contract c)
    (hcall : ∀ msg, m.Sends k contract msg →
      ∀ {β : Type} {x : KeeperM ε β} w', D.after w w' → Served k m.lib ctx msg x → D.call x w')
    (hm : ∀ msg, m.Sends k contract msg →
      ∀ op w', D.mark ⟨op, k.selectAuthorizationPolicy ctx msg.signer⟩ w')
    (hr : ∀ msg, m.Sends k contract msg →
      ∀ r w', Answered k (k.callContext ctx msg) r w' → D.response r w')
    (hcallback : ∀ r w', Answered k ctx r w' → D.response r w') :
    (k.reenter m ctx c).Sound D w := by
  cases c with
  | message msg =>
      have hsent : m.Sends k contract msg := .inr hc
      exact Script.sound_bind hD.toLawful (msgServer_served (hcall msg hsent) (hm msg hsent)
        (hr msg hsent)) fun _ _ _ => trivial
  | openChannel a msg =>
      exact lift_sound (hD.runs (onOpenChannel_runs _ _ _)) fun _ _ _ => trivial
  | callback callback a msg =>
      exact Script.sound_bind hD.toLawful (callback_sound hcallback) fun _ _ _ => trivial
  | recvPacket a msg =>
      refine lift_sound (hD.runs (acceptPacket_runs _ _ rfl)) fun out w₁ h => ?_
      refine Script.sound_bind hD.toLawful
        (answer_sound (runReceive_stored (acceptPacket_ok h)) rfl hcallback) fun _ _ _ => ?_
      exact lift_sound (hD.stays (Stays.ofOption _ _)) fun _ _ _ => trivial
  | recvIBC2Packet a msg =>
      refine lift_sound (hD.runs (acceptPacket_runs _ _ rfl)) fun out w₁ h => ?_
      exact answer_sound (runReceive_stored (acceptPacket_ok h)) rfl hcallback

/-- **What another module does with a message**: its own steps change nothing here. -/
theorem runForeign_served {run : ForeignRun ε α} (hrun : ∀ c, run.Makes c → m.Reenters contract c)
    (hcall : ∀ msg, m.Sends k contract msg →
      ∀ {β : Type} {x : KeeperM ε β} w', D.after w w' → Served k m.lib ctx msg x → D.call x w')
    (hm : ∀ msg, m.Sends k contract msg →
      ∀ op w', D.mark ⟨op, k.selectAuthorizationPolicy ctx msg.signer⟩ w')
    (hr : ∀ msg, m.Sends k contract msg →
      ∀ r w', Answered k (k.callContext ctx msg) r w' → D.response r w')
    (hcallback : ∀ r w', Answered k ctx r w' → D.response r w') :
    (k.runForeign m ctx run).Sound D w := by
  have hlaw := hD.toLawful
  induction run generalizing w with
  | last x => exact Script.sound_lift (hD.stays (Stays.onExt _))
  | step x next ih =>
      refine lift_sound (hD.stays (Stays.onExt _)) fun b w₁ h₁ => ?_
      have hw₁ : D.after w w₁ := hlaw.of_ok (hD.stays (Stays.onExt _)) h₁
      exact ih b (fun c hc => hrun c (.step (onExt_ok h₁) hc)) fun msg hmsg _ _ w' h =>
        hcall msg hmsg w' (hlaw.trans hw₁ h)
  | call c next ih =>
      refine Script.sound_bind hlaw (reenter_served (hrun c (.here next)) hcall hm hr hcallback)
        fun data w₁ hw₁ => ?_
      exact ih data (fun c' hc' => hrun c' (.later c hc')) fun msg hmsg _ _ w' h =>
        hcall msg hmsg w' (hlaw.trans hw₁ h)

/-- A message of a contract is signed by the contract. -/
theorem handleSdkMessage_served {msg : SdkMsg ε}
    (hother : ∀ other handler, msg = .other other → other.handler = some handler →
      ∀ c, (handler ctx).Makes c → m.Reenters contract c)
    (hcall : ∀ msg, m.Sends k contract msg →
      ∀ {β : Type} {x : KeeperM ε β} w', D.after w w' → Served k m.lib ctx msg x → D.call x w')
    (hm : ∀ msg, m.Sends k contract msg →
      ∀ op w', D.mark ⟨op, k.selectAuthorizationPolicy ctx msg.signer⟩ w')
    (hr : ∀ msg, m.Sends k contract msg →
      ∀ r w', Answered k (k.callContext ctx msg) r w' → D.response r w')
    (hcallback : ∀ r w', Answered k ctx r w' → D.response r w') :
    (k.handleSdkMessage m ctx contract msg).Sound D w := by
  have hlaw := hD.toLawful
  cases msg with
  | wasm msg =>
      refine attempt_sound fun _ _ => attempt_sound fun signer hsigner => ?_
      refine ⟨hD.stays (Stays.ensure _ _), fun _ w₁ hensure => ?_⟩
      obtain ⟨rfl, rfl⟩ := GoM.ensure_ok_iff.mp hensure
      have hsent : m.Sends k contract msg := .inl (except_mapError_ok_iff.mp hsigner)
      refine lift_sound (hD.stays takeEvents_stays) fun _ w₂ htaken => ?_
      have hw₂ : D.after w₁ w₂ := hD.of_ok (hD.stays takeEvents_stays) htaken
      refine Script.sound_bind hlaw (msgServer_served
        (fun w' h => hcall msg hsent w' (hD.trans hw₂ h)) (hm msg hsent) (hr msg hsent))
        fun _ w₃ _ => ?_
      exact lift_sound (hD.stays (swapEvents_stays _)) fun _ _ _ => trivial
  | other msg =>
      refine attempt_sound fun _ _ => attempt_sound fun _ _ =>
        ⟨hD.stays (Stays.ensure _ _), fun _ w₁ hensure => ?_⟩
      obtain ⟨-, rfl⟩ := GoM.ensure_ok_iff.mp hensure
      refine ⟨hD.stays (Stays.ofOption _ _), fun handler w₂ hhandler => ?_⟩
      obtain ⟨hsome, rfl⟩ := GoM.ofOption_ok_iff.mp hhandler
      refine lift_sound (hD.stays takeEvents_stays) fun _ w₃ htaken => ?_
      have hw₃ : D.after w₂ w₃ := hD.of_ok (hD.stays takeEvents_stays) htaken
      refine Script.sound_bind hlaw (runForeign_served (hother msg handler rfl hsome)
        (fun msg hmsg _ _ w' h => hcall msg hmsg w' (hD.trans hw₃ h)) hm hr hcallback)
        fun _ w₄ _ => ?_
      exact lift_sound (hD.stays (swapEvents_stays _)) fun _ _ _ => trivial

theorem dispatchSdkMsgs_served {msgs : List (SdkMsg ε)}
    (hother : ∀ other handler, .other other ∈ msgs → other.handler = some handler →
      ∀ c, (handler ctx).Makes c → m.Reenters contract c)
    (hcall : ∀ msg, m.Sends k contract msg →
      ∀ {β : Type} {x : KeeperM ε β} w', D.after w w' → Served k m.lib ctx msg x → D.call x w')
    (hm : ∀ msg, m.Sends k contract msg →
      ∀ op w', D.mark ⟨op, k.selectAuthorizationPolicy ctx msg.signer⟩ w')
    (hr : ∀ msg, m.Sends k contract msg →
      ∀ r w', Answered k (k.callContext ctx msg) r w' → D.response r w')
    (hcallback : ∀ r w', Answered k ctx r w' → D.response r w') :
    (k.dispatchSdkMsgs m ctx contract msgs).Sound D w := by
  have hlaw := hD.toLawful
  induction msgs generalizing w with
  | nil => trivial
  | cons msg rest ih =>
      refine Script.sound_bind hlaw (handleSdkMessage_served (fun other handler heq =>
        hother other handler (heq ▸ List.mem_cons_self)) hcall hm hr hcallback) fun _ w₁ hw₁ => ?_
      exact Script.sound_bind hlaw (ih (fun other handler hmem =>
        hother other handler (List.mem_cons_of_mem _ hmem)) fun msg hmsg _ _ w' h =>
          hcall msg hmsg w' (hlaw.trans hw₁ h)) fun _ _ _ => trivial

/-- What the handlers of messages make of a message of a contract. -/
theorem dispatchCosmosMsg_served {port : String} {msg : C}
    (hcall : ∀ msg, m.Sends k contract msg →
      ∀ {β : Type} {x : KeeperM ε β} w', D.after w w' → Served k m.lib ctx msg x → D.call x w')
    (hm : ∀ msg, m.Sends k contract msg →
      ∀ op w', D.mark ⟨op, k.selectAuthorizationPolicy ctx msg.signer⟩ w')
    (hr : ∀ msg, m.Sends k contract msg →
      ∀ r w', Answered k (k.callContext ctx msg) r w' → D.response r w')
    (hcallback : ∀ r w', Answered k ctx r w' → D.response r w')
    (hibc : ∀ msg, D.call (Keeper.dispatchIBC m ctx contract port msg) w) :
    (k.dispatchCosmosMsg m ctx contract port msg).Sound D w := by
  refine Script.sound_mapError hD.toLawful ?_
  cases hvariant : m.variant msg with
  | sdk encode =>
      have hencode : Stays noContract (onExt (encode ctx contract port)) := Stays.onExt _
      refine ⟨hD.stays hencode, fun msgs w₁ h₁ => dispatchSdkMsgs_served ?_ ?_ hm hr hcallback⟩
      · exact fun other handler hmem hsome c hc =>
          .routed hvariant (onExt_ok h₁) hmem hsome hc
      · exact fun msg hmsg _ _ w' h =>
          hcall msg hmsg w' (hD.trans (hD.of_ok (hD.stays hencode) h₁) h)
  | ibc msg => exact Script.sound_lift (hibc msg)
  | extension handle =>
      exact runForeign_served (fun c hc => .extension hvariant hc) hcall hm hr hcallback
  | unknown => exact Script.sound_lift (hD.stays (Stays.orError _))

end Hosts

theorem dispatchIBC_ack_ok {ctx : SdkContext} {contract : AccAddress} {port channel : String}
    {sequence : UInt64} {ack : Bytes} {out : DispatchResult} {w' : World (Multistore ε) Shared}
    (h : Keeper.dispatchIBC m ctx contract port (.writeAcknowledgement channel sequence ack) w =
      (.ok out, w')) :
    ∃ packet, w.ms.wasm.loadAsyncAckPacket port channel sequence = some packet ∧
      w'.ms.wasm = w.ms.wasm.deleteAsyncAckPacket port channel sequence ∧
      w'.ms.acks = w.ms.acks ++ [⟨contract, port, channel, sequence, packet, ack⟩] ∧
      w'.shared.vm.codes = w.shared.vm.codes := by
  obtain ⟨_, w₁, hport, h₁⟩ := GoM.bind_ok_iff.mp h
  obtain ⟨-, rfl⟩ := GoM.ensure_ok_iff.mp hport
  obtain ⟨_, w₂, hchannel, h₂⟩ := GoM.bind_ok_iff.mp h₁
  obtain ⟨-, rfl⟩ := GoM.ensure_ok_iff.mp hchannel
  obtain ⟨packet, hload, h₃⟩ := lookup_ok h₂
  obtain ⟨_, w₄, hext, h₄⟩ := GoM.bind_ok_iff.mp h₃
  have hc : Confined noContract w₂ w₄ := (Stays.onExt _).confined (GoM.mapError_ok_iff.mp hext)
  obtain ⟨_, w₅, hrecord, h₅⟩ := GoM.bind_ok_iff.mp h₄
  obtain rfl := GoM.modify_ok_iff.mp hrecord
  obtain ⟨_, w₆, hwrite, h₆⟩ := GoM.bind_ok_iff.mp h₅
  obtain rfl := writeStore_ok_iff.mp hwrite
  obtain ⟨-, rfl⟩ := GoM.pure_ok_iff.mp h₆
  refine ⟨packet, hload, ?_, ?_, hc.files⟩
  · show WasmStore.deleteAsyncAckPacket _ _ _ _ = _
    rw [hc.wasm_eq]
  · show w₄.ms.acks ++ _ = _
    rw [hc.acks]

/-- A relation of the stores that does not see the packets that wait is kept. -/
theorem dispatchIBC_tracks {R : WasmStore → WasmStore → Prop} [hR : Tracks R] {ctx : SdkContext}
    {contract : AccAddress} {port : String} {msg : IBCRawMsg} {out : DispatchResult}
    {w' : World (Multistore ε) Shared}
    (h : Keeper.dispatchIBC m ctx contract port msg w = (.ok out, w')) :
    R w.ms.wasm w'.ms.wasm := by
  cases msg with
  | sendPacket channel data timeoutBlock timeoutTimestamp =>
      have hstays : Stays noContract (Keeper.dispatchIBC m ctx contract port
          (.sendPacket channel data timeoutBlock timeoutTimestamp)) :=
        (Stays.ensure _ _).bind fun _ => (Stays.ensure _ _).bind fun _ =>
          (Stays.mapError (Stays.onExt _)).bind fun _ => Stays.pure _
      exact hR.registry (hstays.confined h).registry
  | writeAcknowledgement channel sequence ack =>
      obtain ⟨packet, -, hstore, -⟩ := dispatchIBC_ack_ok h
      rw [hstore]
      exact hR.asyncAcks _ _

theorem dispatchIBC_moves (ctx : SdkContext) (contract : AccAddress) (port : String)
    (msg : IBCRawMsg) : Moves k sim (Keeper.dispatchIBC m ctx contract port msg) := by
  cases msg with
  | sendPacket channel data timeoutBlock timeoutTimestamp =>
      exact .of_stays ((Stays.ensure _ _).bind fun _ => (Stays.ensure _ _).bind fun _ =>
        (Stays.mapError (Stays.onExt _)).bind fun _ => Stays.pure _)
  | writeAcknowledgement channel sequence ack =>
      refine .of_change ?_ fun w out w' h => ?_
      · exact .bind (.ensure _ _) fun _ => .bind (.ensure _ _) fun _ =>
          .bind (readStore_keepsFiles _) fun _ => .bind (.ofOption _ _) fun _ =>
          .bind (Stays.mapError (A := noContract) (Stays.onExt _)).keepsFiles fun _ =>
          .bind (fun _ => rfl) fun _ => .bind (writeStore_keepsFiles _) fun _ => .pure _
      · obtain ⟨packet, hload, hstore, hacks, hfiles⟩ := dispatchIBC_ack_ok h
        exact .acknowledged contract port channel sequence packet ack hload hstore hacks hfiles

theorem dispatchCosmosMsg_sound {D : Conduct (Multistore ε) Shared SdkContext C Guarded}
    [hD : D.Admits k sim] {ctx : SdkContext} (hsim : ctx.simulate = true → sim = true)
    {contract : AccAddress} {port : String} {msg : C}
    (hm : ∀ msg, m.Sends k contract msg →
      ∀ op w', D.mark ⟨op, k.selectAuthorizationPolicy ctx msg.signer⟩ w')
    (hr : ∀ msg, m.Sends k contract msg →
      ∀ r w', Answered k (k.callContext ctx msg) r w' → D.response r w')
    (hcallback : ∀ r w', Answered k ctx r w' → D.response r w')
    (hibc : ∀ msg, D.call (Keeper.dispatchIBC m ctx contract port msg) w) :
    (k.dispatchCosmosMsg m ctx contract port msg).Sound D w :=
  dispatchCosmosMsg_served (fun _ _ _ _ _ _ h => hD.edits (h.edits hsim)) hm hr hcallback hibc

/-! ## The chain -/

/-- Other things may be asked of operations and responses. -/
instance Conduct.Plain.asking {D : Conduct (Multistore ε) Shared SdkContext C Guarded}
    [hD : D.Plain] (mark : Guarded → World (Multistore ε) Shared → Prop)
    (response : Response SdkContext C → World (Multistore ε) Shared → Prop) :
    Conduct.Plain { D with mark := mark, response := response } where
  ofExcept := hD.ofExcept
  bind := hD.bind
  mapError := hD.mapError
  sandbox := hD.sandbox
  refl := hD.refl
  trans := hD.trans
  frame := hD.frame
  of_ok := hD.of_ok
  stays := hD.stays

instance Conduct.Hosts.asking {D : Conduct (Multistore ε) Shared SdkContext C Guarded}
    [hD : D.Hosts k] (mark : Guarded → World (Multistore ε) Shared → Prop)
    (response : Response SdkContext C → World (Multistore ε) Shared → Prop) :
    Conduct.Hosts { D with mark := mark, response := response } k where
  toPlain := .asking mark response
  runs := hD.runs

/-- **The rule for the chain of the keeper**: what is asked passes from a response to what its
messages, and those that other modules route for them, ask of the keeper, to their operations and
responses, and to the responses of its replies and of callbacks. -/
theorem chain_served {D : Conduct (Multistore ε) Shared SdkContext C Guarded} [hD : D.Hosts k]
    (hcall : ∀ r w, D.response r w → ∀ msg, m.Sends k r.contract msg →
      ∀ {β : Type} {x : KeeperM ε β} w', D.after w w' → Served k m.lib r.ctx msg x → D.call x w')
    (hibc : ∀ r w, D.response r w → ∀ w', D.after w w' → ∀ msg,
      D.call (Keeper.dispatchIBC m r.ctx r.contract r.ibcPort msg) w')
    (hm : ∀ r w, D.response r w → ∀ msg, m.Sends k r.contract msg →
      ∀ op w', D.mark ⟨op, k.selectAuthorizationPolicy r.ctx msg.signer⟩ w')
    (hr : ∀ r w, D.response r w → ∀ msg, m.Sends k r.contract msg → ∀ r' w', D.after w w' →
      Answered k (k.callContext r.ctx msg) r' w' → D.response r' w')
    (hreply : ∀ r w, D.response r w → ∀ r' w', D.after w w' → Answered k r.ctx r' w' →
      D.response r' w') :
    (k.chain m).Sound D where
  onMsg r w hres w' hafter msg := by
    -- what the script gets to is described first; the worlds it does so in come after `w`
    have hscript : (k.dispatchCosmosMsg m r.ctx r.contract r.ibcPort msg).Sound { D with
        mark := fun l _ => ∃ msg, m.Sends k r.contract msg ∧
          l.policy = k.selectAuthorizationPolicy r.ctx msg.signer
        response := fun r' w'' => Answered k r.ctx r' w'' ∨ ∃ msg, m.Sends k r.contract msg ∧
          Answered k (k.callContext r.ctx msg) r' w'' } w' :=
      dispatchCosmosMsg_served
        (fun msg hsent _ _ w'' h => hcall r w hres msg hsent w'' (hD.trans hafter h))
        (fun msg hsent _ _ => ⟨msg, hsent, rfl⟩) (fun msg hsent _ _ ha => .inr ⟨msg, hsent, ha⟩)
        (fun _ _ ha => .inl ha) (hibc r w hres w' hafter)
    refine hscript.imp hD.toLawful ?_ ?_
    · rintro ⟨op, policy⟩ w'' - ⟨msg, hsent, rfl⟩
      exact hm r w hres msg hsent op w''
    · rintro r' w'' h (ha | ⟨msg, hsent, ha⟩)
      · exact hreply r w hres r' w'' (hD.trans hafter h) ha
      · exact hr r w hres msg hsent r' w'' (hD.trans hafter h) ha
  onReply r w hres w' hafter reply := by
    have hscript : (k.reply r.ctx r.contract reply).Sound
        { D with response := fun r' w'' => Answered k r.ctx r' w'' } w' :=
      reply_sound fun _ _ ha => ha
    exact hscript.imp hD.toLawful (fun _ _ _ hl => hl) fun r' w'' h ha =>
      hreply r w hres r' w'' (hD.trans hafter h) ha

/-- The rule when calls are to make changes only. -/
theorem chain_sound (hsim : ∀ r w, response r w → r.ctx.simulate = true → sim = true)
    (hm : ∀ r w, response r w → ∀ msg, m.Sends k r.contract msg →
      ∀ op w', mark ⟨op, k.selectAuthorizationPolicy r.ctx msg.signer⟩ w')
    (hr : ∀ r w, response r w → ∀ msg, m.Sends k r.contract msg → ∀ r' w',
      Changes k sim w.durable w'.durable → Answered k (k.callContext r.ctx msg) r' w' →
        response r' w')
    (hreply : ∀ r w, response r w → ∀ r' w', Changes k sim w.durable w'.durable →
      Answered k r.ctx r' w' → response r' w') :
    (k.chain m).Sound (movesConduct k sim mark response) :=
  chain_served (fun r w hres _ _ _ _ w' _ h => (h.edits (hsim r w hres)).moves w')
    (fun _ _ _ w' _ msg => dispatchIBC_moves _ _ _ msg w') hm hr hreply

theorem simulate_callContext (k : Keeper ε C) (ctx : SdkContext) (msg : WasmMsg) :
    (k.callContext ctx msg).simulate = ctx.simulate := by
  unfold Keeper.callContext
  split <;> rfl

/-- **Handling a response makes changes only.** -/
theorem handlerAt_moves {n : Nat} {r : Response SdkContext C}
    (hsim : r.ctx.simulate = true → sim = true) : Moves k sim ((k.chain m).handlerAt n r) := by
  have hc : (k.chain m).Sound (movesConduct k sim (fun _ _ => True)
      fun r _ => r.ctx.simulate = true → sim = true) := by
    refine chain_sound (fun _ _ hr => hr) (fun _ _ _ _ _ _ _ => trivial) ?_ ?_
    · intro r w hr msg _ r' w' _ ha
      rw [ha.ctx_eq]
      exact (simulate_callContext k r.ctx msg) ▸ hr
    · intro r w hr r' w' _ ha
      rw [ha.ctx_eq]
      exact hr
  exact fun w => (movesConduct_lawful k sim _ _).handlerAt hc n r w hsim

/-- The loop over the messages of a response makes changes only. -/
theorem loopAt_changes {n : Nat} {r : Response SdkContext C} {w' : World (Multistore ε) Shared}
    {msg : SubMsg C} (h : MessageDispatcher.LoopAt ((k.chain m).dispatcherAt n r.ctx) r.contract
      r.ibcPort none r.msgs w msg w') : Changes k true w.durable w'.durable := by
  have hc : (k.chain m).Sound (movesConduct k true (fun _ _ => True) fun _ _ => True) :=
    chain_sound (fun _ _ _ _ => rfl) (fun _ _ _ _ _ _ _ => trivial)
      (fun _ _ _ _ _ _ _ _ _ => trivial) fun _ _ _ _ _ _ _ => trivial
  exact (movesConduct_lawful k true _ _).loopAt hc trivial h

end Scripts

end Wasmd
