import Wasmd.Keeper.Recursion
import Wasmd.Keeper.Registry

/-!
# Runs of the chain

A chain makes one call of the keeper after the other.  A call that fails is rolled back, except for
what the VM has on disk and in memory.

* `KeeperCall` — the calls: the functions of the keeper, the entry points of contracts, and the
  messages of the module.
* `ChainStep`, `Reached` — one call, and any number of them.
* `ChainStep.moves` — what a step can do to the durable state: changes, and a received packet that
  is kept for later.
* `registry_iff` — the registry invariant over whole runs.
-/

namespace Wasmd

open ByteStore Effects Gas

variable {ε C α β : Type} {k : Keeper ε C} {m : Messenger ε C}

/-! ## Calls -/

/-- `Handle`, unrolled as often as responses can be nested. -/
def Keeper.handler (k : Keeper ε C) (m : Messenger ε C) :
    Response SdkContext C → KeeperM ε (Option Bytes) :=
  (k.chain m).handlerAt (k.maxCallDepth.toNat + 2)

/-- A call of the keeper. -/
inductive KeeperCall where
  | create (ctx : SdkContext) (creator : Option AccAddress) (wasmCode : Bytes)
      (access : Option AccessConfig) (policy : AuthorizationPolicy)
  | setContractAdmin (contract caller : AccAddress) (newAdmin : Option AccAddress)
      (policy : AuthorizationPolicy)
  | setContractLabel (contract caller : AccAddress) (newLabel : String)
      (policy : AuthorizationPolicy)
  | setContractInfoExtension (contract : AccAddress) (ext : Option Bytes)
  | setAccessConfig (codeID : UInt64) (caller : AccAddress) (config : AccessConfig)
      (policy : AuthorizationPolicy)
  | pinCode (codeID : UInt64)
  | unpinCode (codeID : UInt64)
  | top (call : TopCall)

namespace KeeperCall

/-- The call. -/
def run (k : Keeper ε C) (m : Messenger ε C) : KeeperCall → KeeperM ε Unit
  | .create ctx creator wasmCode access policy => do
    let _ ← k.create ctx creator wasmCode access policy
    return ()
  | .setContractAdmin contract caller newAdmin policy =>
    k.setContractAdmin contract caller newAdmin policy
  | .setContractLabel contract caller newLabel policy =>
    k.setContractLabel contract caller newLabel policy
  | .setContractInfoExtension contract ext => k.setContractInfoExtension contract ext
  | .setAccessConfig codeID caller config policy => k.setAccessConfig codeID caller config policy
  | .pinCode codeID => k.pinCode codeID
  | .unpinCode codeID => k.unpinCode codeID
  | .top call => (call.script k m).run (k.handler m)

/-- The call is made in a simulation. -/
def simulates : KeeperCall → Bool
  | .create ctx .. => ctx.simulate
  | .top call => call.ctx.simulate
  | _ => false

end KeeperCall

/-! ## Scripts in a row -/

section Scripts

variable {μ ν K L : Type}

theorem Script.run_bind (handler : Response K C → CtxM μ ν (Option Bytes))
    (s : Script μ ν K C L α) (f : α → Script μ ν K C L β) (w : World μ ν) :
    (s >>= f).run handler w = (s.run handler >>= fun a => (f a).run handler) w := by
  show (s.bind f).run handler w = _
  induction s generalizing w with
  | done a => rfl
  | step x next ih =>
      show (x >>= fun b => ((next b).bind f).run handler) w =
        ((x >>= fun b => (next b).run handler) >>= fun a => (f a).run handler) w
      rw [GoM.bind_run, GoM.bind_run, GoM.bind_run]
      cases hx : x w with
      | mk r w₁ =>
          cases r with
          | ok b => exact ih b w₁
          | error e => rfl
  | mark l next ih => exact ih w
  | respond wrap r next ih =>
      show (GoM.mapError wrap (handler r) >>= fun rsp => ((next rsp).bind f).run handler) w =
        ((GoM.mapError wrap (handler r) >>= fun rsp => (next rsp).run handler) >>=
          fun a => (f a).run handler) w
      rw [GoM.bind_run, GoM.bind_run, GoM.bind_run]
      cases hx : GoM.mapError wrap (handler r) w with
      | mk res w₁ =>
          cases res with
          | ok rsp => exact ih rsp w₁
          | error e => rfl

theorem Script.run_bind_ok_iff {handler : Response K C → CtxM μ ν (Option Bytes)}
    {s : Script μ ν K C L α} {f : α → Script μ ν K C L β} {b : β} {w w' : World μ ν} :
    (s >>= f).run handler w = (.ok b, w') ↔
      ∃ a w₁, s.run handler w = (.ok a, w₁) ∧ (f a).run handler w₁ = (.ok b, w') := by
  rw [Script.run_bind, GoM.bind_ok_iff]

theorem Script.lift_run (handler : Response K C → CtxM μ ν (Option Bytes)) (x : CtxM μ ν α) :
    (Script.lift x : Script μ ν K C L α).run handler = x := by
  funext w
  show (x >>= pure) w = x w
  rw [GoM.bind_run]
  cases x w with
  | mk r w₁ => cases r <;> rfl

/-- The errors of a script are changed at its end. -/
theorem Script.run_mapError (handler : Response K C → CtxM μ ν (Option Bytes))
    (f : GoError → GoError) (s : Script μ ν K C L α) (w : World μ ν) :
    (s.mapError f).run handler w = GoM.mapError f (s.run handler) w := by
  induction s generalizing w with
  | done a => rfl
  | step x next ih =>
      show (GoM.mapError f x >>= fun b => ((next b).mapError f).run handler) w =
        GoM.mapError f (x >>= fun b => (next b).run handler) w
      rw [GoM.mapError_bind_run]
      exact GoM.bind_run_congr rfl fun b w₁ _ => ih b w₁
  | mark l next ih => exact ih w
  | respond wrap r next ih =>
      show (GoM.mapError (f ∘ wrap) (handler r) >>= fun rsp =>
          ((next rsp).mapError f).run handler) w =
        GoM.mapError f (GoM.mapError wrap (handler r) >>= fun rsp => (next rsp).run handler) w
      rw [GoM.mapError_bind_run, GoM.mapError_mapError]
      exact GoM.bind_run_congr rfl fun rsp w₁ _ => ih rsp w₁

end Scripts

/-! ## Received packets -/

section Receive

variable (k)

/-- `OnRecvPacket` up to the point where the packet is kept. -/
def Keeper.receivePacket (ctx : SdkContext) (contract : AccAddress) (msg : IBCPacketReceiveMsg) :
    KeeperScript ε C Keeper.PacketAck := do
  let (contractInfo, out) ← k.runReceive ctx contract (.ibcPacketReceive msg)
  match out with
  | .error err => return .error err
  | .ok res => do
    let data ← k.handleContractResponse ctx contract .ibcPacketReceive contractInfo.ibcPortID id res
      res.data
    return (data.elim .later .confirm)

/-- A packet without an acknowledgement is kept. -/
def Keeper.keepPacket (packet : Packet) : Keeper.PacketAck → KeeperM ε Keeper.PacketAck
  | .later => do
    Keeper.storeAsyncAckPacket packet
    return .later
  | ack => pure ack

variable {k}

theorem onRecvPacket_run {handler : Response SdkContext C → KeeperM ε (Option Bytes)}
    {ctx : SdkContext} {contract : AccAddress} {msg : IBCPacketReceiveMsg}
    (w : World (Multistore ε) Shared) :
    (k.onRecvPacket ctx contract msg).run handler w =
      ((k.receivePacket ctx contract msg).run handler >>=
        Keeper.keepPacket (convertPacket msg.packet)) w := by
  rw [Keeper.onRecvPacket, Keeper.receivePacket, Script.run_bind, GoM.bind_run, GoM.bind_run,
    Script.run_bind, GoM.bind_run]
  cases hrun : (Script.lift (k.runReceive ctx contract (.ibcPacketReceive msg)) :
      KeeperScript ε C _).run handler w with
  | mk r w₁ =>
      cases r with
      | error e => rfl
      | ok found =>
          obtain ⟨info, err | res⟩ := found
          · rfl
          · dsimp only
            rw [Script.run_bind, Script.run_bind, GoM.bind_run, GoM.bind_run]
            cases hhandled : (k.handleContractResponse ctx contract .ibcPacketReceive info.ibcPortID
                id res res.data).run handler w₁ with
            | mk r w₂ =>
                cases r with
                | error e => rfl
                | ok data => cases data <;> rfl

end Receive

/-! ## What a call does -/

section Moves

variable {sim : Bool}

/-- What is asked of calls that make changes only. -/
abbrev movesOnly (k : Keeper ε C) (sim : Bool) :
    Conduct (Multistore ε) Shared SdkContext C Guarded :=
  movesConduct k sim (fun _ _ => True) fun r _ => r.ctx.simulate = true → sim = true

/-- A script that makes changes only is such a call. -/
theorem Script.Sound.moves {s : KeeperScript ε C α} (hs : ∀ w, s.Sound (movesOnly k sim) w) :
    Moves k sim (s.run (k.handler m)) := fun w =>
  Script.Sound.run (movesConduct_lawful k sim _ _) (fun _ w hr => handlerAt_moves hr w) (hs w)

theorem OnContext.simulate {ctx : SdkContext} {r : Response SdkContext C} (h : OnContext k ctx r) :
    r.ctx.simulate = ctx.simulate := by
  rw [h.ctx_eq]
  rfl

theorem TopCall.moves {call : TopCall} (hsim : call.ctx.simulate = true → sim = true)
    (hkeep : ∀ ctx contract msg, call ≠ .entry (.ibcPacketReceive ctx contract msg)) :
    Moves k sim ((call.script k m).run (k.handler m)) := by
  refine Script.Sound.moves fun w => ?_
  cases call with
  | entry call =>
      refine EntryCall.sound (fun _ _ => trivial) (fun r w' ha => ?_)
        fun ctx contract msg heq => absurd (congrArg TopCall.entry heq) (hkeep ctx contract msg)
      show r.ctx.simulate = true → sim = true
      rw [ha.simulate, call.callContext_depth.2]
      exact hsim
  | message ctx msg =>
      refine discard_sound (msgServer_sound hsim (fun _ _ => trivial) fun r w' ha => ?_)
      show r.ctx.simulate = true → sim = true
      rw [ha.simulate, simulate_callContext]
      exact hsim

theorem receivePacket_moves {ctx : SdkContext} (hsim : ctx.simulate = true → sim = true)
    {contract : AccAddress} {msg : IBCPacketReceiveMsg} :
    Moves k sim ((k.receivePacket ctx contract msg).run (k.handler m)) := by
  refine Script.Sound.moves fun w => runReceive_sound (fun _ => rfl) (fun r w' ha => ?_)
    fun data w₁ => trivial
  show r.ctx.simulate = true → sim = true
  rw [ha.simulate]
  exact hsim

theorem KeeperCall.moves {call : KeeperCall} (hsim : call.simulates = true → sim = true)
    (hkeep : ∀ ctx contract msg, call ≠ .top (.entry (.ibcPacketReceive ctx contract msg))) :
    Moves k sim (call.run k m) := by
  cases call with
  | create ctx creator wasmCode access policy =>
      exact ((create_edits hsim _ _ _ _).bind fun _ => .of_stays (Stays.pure _)).moves
  | setContractAdmin contract caller newAdmin policy => exact (setContractAdmin_edits _ _ _ _).moves
  | setContractLabel contract caller newLabel policy => exact (setContractLabel_edits _ _ _ _).moves
  | setContractInfoExtension contract ext => exact (setContractInfoExtension_edits _ _).moves
  | setAccessConfig codeID caller config policy => exact (setAccessConfig_edits _ _ _ _).moves
  | pinCode codeID => exact (pinCode_edits _).moves
  | unpinCode codeID => exact (unpinCode_edits _).moves
  | top call =>
      exact TopCall.moves hsim fun ctx contract msg heq => hkeep ctx contract msg (by rw [heq])

/-- What a call left: it made changes, and may have kept a packet at the end. -/
inductive Kept (k : Keeper ε C) (sim : Bool) (d d' : Durable) : Prop
  | changes : Changes k sim d d' → Kept k sim d d'
  | packet (d₁ : Durable) (packet : Packet) : Changes k sim d d₁ →
      d' = { d₁ with store := d₁.store.storeAsyncAckPacket packet } → Kept k sim d d'

/-- A received packet: changes, and the packet if it is to be acknowledged later. -/
theorem receive_ok {ctx : SdkContext} (hsim : ctx.simulate = true → sim = true)
    {contract : AccAddress} {msg : IBCPacketReceiveMsg} {w w' : World (Multistore ε) Shared}
    {ack : Keeper.PacketAck}
    (h : (k.onRecvPacket ctx contract msg).run (k.handler m) w = (.ok ack, w')) :
    ∃ w₁, (k.receivePacket ctx contract msg).run (k.handler m) w = (.ok ack, w₁) ∧
      Changes k sim w.durable w₁.durable ∧
      (ack = .later ∧ w' = { w₁ with ms := { w₁.ms with
          wasm := w₁.ms.wasm.storeAsyncAckPacket (convertPacket msg.packet) } } ∨
        ack ≠ .later ∧ w' = w₁) := by
  rw [onRecvPacket_run] at h
  obtain ⟨ack', w₁, hreceive, hkeep⟩ := GoM.bind_ok_iff.mp h
  have hchanges := (receivePacket_moves hsim w _ _ hreceive).2 _ rfl
  cases ack' with
  | later =>
      obtain ⟨_, w₂, hstore, hret⟩ := GoM.bind_ok_iff.mp hkeep
      obtain rfl := writeStore_ok_iff.mp hstore
      obtain ⟨rfl, rfl⟩ := GoM.pure_ok_iff.mp hret
      exact ⟨w₁, hreceive, hchanges, .inl ⟨rfl, rfl⟩⟩
  | error err =>
      obtain ⟨rfl, rfl⟩ := GoM.pure_ok_iff.mp hkeep
      exact ⟨_, hreceive, hchanges, .inr ⟨by simp, rfl⟩⟩
  | confirm data =>
      obtain ⟨rfl, rfl⟩ := GoM.pure_ok_iff.mp hkeep
      exact ⟨_, hreceive, hchanges, .inr ⟨by simp, rfl⟩⟩

/-- Keeping a packet writes no code file. -/
theorem keepPacket_keepsFiles (packet : Packet) (ack : Keeper.PacketAck) :
    GoM.Keeps codeFiles (Keeper.keepPacket packet ack : KeeperM ε _) := by
  cases ack with
  | later => exact .bind (writeStore_keepsFiles _) fun _ => .pure _
  | error err => exact .pure _
  | confirm data => exact .pure _

/-- **What a call can do**: the VM takes codes however it ends, and if it succeeds it made changes
and may have kept a packet. -/
theorem KeeperCall.run_moves {call : KeeperCall} (hsim : call.simulates = true → sim = true)
    {w w' : World (Multistore ε) Shared} {r : Except (Failure GoError) Unit}
    (h : call.run k m w = (r, w')) :
    Grows k.wasmVM (codeFiles w) (codeFiles w') ∧
      ∀ u, r = .ok u → Kept k sim w.durable w'.durable := by
  by_cases hkeep : ∃ ctx contract msg, call = .top (.entry (.ibcPacketReceive ctx contract msg))
  · obtain ⟨ctx, contract, msg, rfl⟩ := hkeep
    replace h : ((k.onRecvPacket ctx contract msg >>= fun _ => pure () :
      KeeperScript ε C Unit)).run (k.handler m) w = (r, w') := h
    rw [Script.run_bind] at h
    constructor
    · have hgrown : Grown k.wasmVM
          ((k.onRecvPacket ctx contract msg).run (k.handler m) >>= fun _ => pure ()) := by
        refine Grown.bind (fun w => ?_) fun _ => .of_keeps (.pure _)
        rw [onRecvPacket_run]
        exact Grown.bind (fun w => (receivePacket_moves hsim w _ _ rfl).1)
          (fun ack => .of_keeps (keepPacket_keepsFiles _ ack)) w
      have hw := hgrown w
      rw [show ((k.onRecvPacket ctx contract msg).run (k.handler m) >>= fun _ => pure ()) w =
        (r, w') from h] at hw
      exact hw
    · rintro u rfl
      obtain ⟨ack, w₁, hreceive, hret⟩ := GoM.bind_ok_iff.mp h
      obtain ⟨-, rfl⟩ := GoM.pure_ok_iff.mp hret
      obtain ⟨w₂, -, hchanges, ⟨-, rfl⟩ | ⟨-, rfl⟩⟩ := receive_ok hsim hreceive
      · exact .packet _ _ hchanges rfl
      · exact .changes hchanges
  · have hmoves := KeeperCall.moves (k := k) (m := m) hsim
      fun ctx contract msg heq => hkeep ⟨ctx, contract, msg, heq⟩
    obtain ⟨hgrows, hchanges⟩ := hmoves w r w' h
    exact ⟨hgrows, fun u hu => .changes (hchanges u hu)⟩

end Moves

/-! ## Runs -/

/-- What lasts from one call to the next. -/
structure ChainState (ε : Type) where
  ms : Multistore ε
  vm : VMState

namespace ChainState

/-- The durable part. -/
def durable (st : ChainState ε) : Durable := ⟨st.ms.wasm, st.ms.acks, st.vm.codes⟩

/-- The world a call is made in; other modules may have changed their state. -/
def world (st : ChainState ε) (ext : ε) (gas : GasMeter) (txContracts : Option (List Bytes)) :
    World (Multistore ε) Shared :=
  ⟨{ st.ms with ext := ext }, gas, [], ⟨txContracts, st.vm⟩⟩

/-- A chain without codes and contracts. -/
def initial (params : Option Params) (ext : ε) : ChainState ε :=
  ⟨⟨{ WasmStore.empty with params := params }, [], ext⟩, ⟨∅, []⟩⟩

end ChainState

/-- One call among `P`. -/
inductive ChainStep (k : Keeper ε C) (m : Messenger ε C) (P : KeeperCall → Prop)
    (st : ChainState ε) : ChainState ε → Prop
  | ok {call ext gas txContracts u w'} : P call →
      call.run k m (st.world ext gas txContracts) = (.ok u, w') →
      ChainStep k m P st ⟨w'.ms, w'.shared.vm⟩
  /-- A failed call is rolled back. -/
  | failed {call ext gas txContracts e w'} : P call →
      call.run k m (st.world ext gas txContracts) = (.error e, w') →
      ChainStep k m P st ⟨st.ms, w'.shared.vm⟩

/-- Any number of calls among `P`. -/
def Reached (k : Keeper ε C) (m : Messenger ε C) (P : KeeperCall → Prop) :
    ChainState ε → ChainState ε → Prop :=
  Relation.ReflTransGen (ChainStep k m P)

/-- **What a step can do.** -/
theorem ChainStep.moves {P : KeeperCall → Prop} {sim : Bool} {st st' : ChainState ε}
    (h : ChainStep k m P st st') (hsim : ∀ call, P call → call.simulates = true → sim = true) :
    Kept k sim st.durable st'.durable := by
  cases h with
  | ok hcall hrun => exact (KeeperCall.run_moves (hsim _ hcall) hrun).2 _ rfl
  | failed hcall hrun =>
      have hgrows := (KeeperCall.run_moves (hsim _ hcall) hrun).1
      exact .changes (Relation.ReflTransGen.single (.files rfl rfl hgrows))

/-- **A relation of the stores over runs**: a run keeps what its successful calls keep. -/
theorem Reached.tracks {R : WasmStore → WasmStore → Prop} [hR : Tracks R] {P : KeeperCall → Prop}
    (hcall : ∀ call, P call → ∀ w u w', call.run k m w = (.ok u, w') → R w.ms.wasm w'.ms.wasm)
    {st st' : ChainState ε} (h : Reached k m P st st') : R st.ms.wasm st'.ms.wasm := by
  induction h with
  | refl => exact Tracks.refl _
  | tail _ hstep ih =>
      refine hR.trans ih ?_
      cases hstep with
      | ok hP hrun => exact hcall _ hP _ _ _ hrun
      | failed => exact Tracks.refl _

/-! ## The registry over runs -/

/-- The iterators show the contracts by code and by creator, each once and no other. -/
structure Listed (codec : AddressCodec) (s : WasmStore) : Prop where
  byCode : ∀ codeID, (s.contractsByCode codeID).Nodup ∧ ∀ bz, bz ∈ s.contractsByCode codeID ↔
    ∃ a info, bz = a.bytes ∧ s.getContractInfo a = some info ∧ info.codeID = codeID
  byCreator : ∀ creator, (s.contractsByCreator creator).Nodup ∧
    ∀ bz, bz ∈ s.contractsByCreator creator ↔ ∃ a info, bz = a.bytes ∧
      s.getContractInfo a = some info ∧ codec.accAddressFromBech32 info.creator = .ok creator

theorem Registry.listed {codec : AddressCodec} {s : WasmStore} (h : Registry codec s) :
    Listed codec s := by
  obtain ⟨R, hR⟩ := h
  exact ⟨hR.contractsByCode, hR.contractsByCreator⟩

theorem Kept.registry {sim : Bool} {d d' : Durable} (h : Kept k sim d d')
    (hd : Registry k.codec d.store ∨ Wrapped d.store) :
    Registry k.codec d'.store ∨ Wrapped d'.store := by
  cases h with
  | changes h => exact h.registry hd
  | packet d₁ packet h hd' =>
      subst hd'
      rcases h.registry hd with ⟨R, hR⟩ | hwrapped
      · exact .inl ⟨R, hR.congr rfl rfl rfl rfl rfl fun _ hid => hid⟩
      · exact .inr hwrapped

theorem registry_or_wrapped {P : KeeperCall → Prop} {params : Option Params} {ext : ε}
    {st : ChainState ε} (h : Reached k m P (.initial params ext) st) :
    Registry k.codec st.ms.wasm ∨ Wrapped st.ms.wasm := by
  induction h with
  | refl => exact .inl ⟨_, .initial params⟩
  | tail _ hstep ih =>
      have hkept : Kept k true _ _ := hstep.moves fun _ _ _ => rfl
      exact hkept.registry ih

/-- **The registry invariant over whole runs.**  In every state that calls of the keeper lead to
from a chain without codes and contracts, the registry invariant holds, and the iterators show what
they should, exactly if no history has wrapped around. -/
theorem registry_iff (k : Keeper ε C) (m : Messenger ε C) (params : Option Params) (ext : ε)
    (st : ChainState ε) (h : Reached k m (fun _ => True) (.initial params ext) st) :
    Registry k.codec st.ms.wasm ∧ Listed k.codec st.ms.wasm ↔ ¬ Wrapped st.ms.wasm := by
  constructor
  · rintro ⟨⟨R, hR⟩, -⟩
    exact hR.not_wrapped
  · intro hno
    have hreg := (registry_or_wrapped h).resolve_right hno
    exact ⟨hreg, hreg.listed⟩

/-! ### A history that wraps around -/

/-- A chain on which every code has the same migrate version. -/
def wrapKeeper : Keeper Unit Unit :=
  { plainKeeper Unit with
    wasmVM := { plainVM Unit with analyze := fun _ => .ok ⟨false, "", some 1⟩ } }

/-- The state after a call. -/
def wrapAfter (call : KeeperCall) (st : ChainState Unit) : ChainState Unit :=
  let out := call.run wrapKeeper sendMessenger (st.world () (.infinite 0) none)
  ⟨out.2.ms, out.2.shared.vm⟩

/-- A code is stored, and a contract is made of it. -/
def wrapStored : ChainState Unit :=
  wrapAfter (.create ibcCtx (some ibcCreator) [1] none .default) (.initial (some defaultParams) ())

def wrapStart : ChainState Unit :=
  wrapAfter (.top (.entry (.instantiate ibcCtx 1 (some ibcCreator) (some ibcCreator) [] "label" []
    .classic .default))) wrapStored

/-- The contract. -/
def wrapContract : AccAddress := wrapKeeper.buildContractAddressClassic 1 1

theorem wrapStart_reached {P : KeeperCall → Prop} (hP : ∀ call, call.simulates = false → P call) :
    Reached wrapKeeper sendMessenger P (.initial (some defaultParams) ()) wrapStart := by
  refine Relation.ReflTransGen.tail (.single (.ok (u := ()) (hP _ rfl) (GoM.ok_of_toOption ?_)))
    (.ok (u := ()) (hP _ rfl) (GoM.ok_of_toOption ?_))
  · decide +kernel
  · decide +kernel

/-- Its history has one entry. -/
theorem wrapStart_history {a : AccAddress} {pos : UInt64}
    (h : (wrapStart.ms.wasm.history[contractCodeHistoryElementKey a pos]?).isSome) :
    a = wrapContract ∧ pos = 1 := by
  have hkeys : wrapStart.ms.wasm.history.keys = [contractCodeHistoryElementKey wrapContract 1] := by
    decide +kernel
  have hmem := Std.ExtTreeMap.mem_keys.mpr (Std.ExtTreeMap.isSome_getElem?_iff_mem.mp h)
  rw [hkeys, List.mem_singleton] at hmem
  exact historyKey_inj hmem

theorem wrapStart_not_wrapped : ¬ Wrapped wrapStart.ms.wasm := by
  rintro ⟨a, ha⟩
  exact absurd (wrapStart_history ha).2 (by decide)

theorem registry_iff_instantiated :
    Registry wrapKeeper.codec wrapStart.ms.wasm ∧ Listed wrapKeeper.codec wrapStart.ms.wasm :=
  (registry_iff wrapKeeper sendMessenger _ _ wrapStart (wrapStart_reached fun _ _ => trivial)).mpr
    wrapStart_not_wrapped

/-- Between codes of one migrate version a contract is migrated without being called. -/
theorem migrateContract_uncalled {ctx : SdkContext} {a caller : AccAddress} {newCodeID : UInt64}
    {authZ : AuthorizationPolicy} {w : World (Multistore ε) Shared} {old : ContractInfo}
    {admin : Option AccAddress} {codeInfo oldCode : CodeInfo} {report oldReport : AnalysisReport}
    {v : UInt64} {last : ContractCodeHistoryEntry} {position : AbsoluteTxPosition} (msg : Bytes)
    (hold : w.ms.wasm.getContractInfo a = some old) (hadmin : old.adminAddr k.codec = .ok admin)
    (hmodify : authZ.canModifyContract admin caller = true)
    (hcode : w.ms.wasm.getCodeInfo newCodeID = some codeInfo)
    (hallowed : authZ.canInstantiateContract k.codec codeInfo.instantiateConfig caller = .ok true)
    (hreport : k.wasmVM.analyze codeInfo.codeHash = .ok report) (hport : old.ibcPortID = "")
    (holdCode : w.ms.wasm.getCodeInfo old.codeID = some oldCode)
    (holdReport : k.wasmVM.analyze oldCode.codeHash = .ok oldReport)
    (hversion : report.contractMigrateVersion = some v)
    (hsame : oldReport.contractMigrateVersion = some v)
    (hlast : w.ms.wasm.lastContractHistoryEntry a = some last)
    (hposition : newAbsoluteTxPosition ctx = .ok position) :
    ∃ info w', k.migrateContract ctx a caller newCodeID msg authZ w = (.ok (info, none), w') := by
  have hread : ∀ {β : Type} (f : WasmStore → β), (readStore f : KeeperM ε β) w =
      (.ok (f w.ms.wasm), w) :=
    fun f => rfl
  have hanalyze : ∀ {hash : Bytes} {report : AnalysisReport}, k.wasmVM.analyze hash = .ok report →
      k.analyzeCode errVMError hash w = (.ok report, w) := by
    intro hash report h
    rw [Keeper.analyzeCode, h]
    rfl
  rw [Keeper.migrateContract, GoM.bind_run_ok (hread _),
    GoM.bind_run_ok (GoM.ofOption_ok_iff.mpr ⟨hold, rfl⟩),
    GoM.bind_run_ok (orPanic_ok_iff.mpr ⟨hadmin, rfl⟩),
    GoM.bind_run_ok (GoM.ensure_run_true hmodify _ _), GoM.bind_run_ok (hread _),
    GoM.bind_run_ok (GoM.ofOption_ok_iff.mpr ⟨hcode, rfl⟩),
    GoM.bind_run_ok (orPanic_ok_iff.mpr ⟨hallowed, rfl⟩),
    GoM.bind_run_ok (GoM.ensure_run_true rfl _ _),
    GoM.bind_run_ok (hanalyze hreport),
    GoM.bind_run_ok (GoM.ensure_run_true (.inr hport) _ _), GoM.bind_run_ok (hread _),
    GoM.bind_run_ok (GoM.ofOptionPanic_ok_iff.mpr
      ⟨(show w.ms.wasm.getCodeInfo (k.migratedPorts a report old).codeID = _ from holdCode), rfl⟩),
    GoM.bind_run_ok (hanalyze holdReport), if_neg (by simp [hversion, hsame]),
    GoM.bind_run_ok (GoM.pure_run none w), GoM.bind_run_ok (hread _),
    GoM.bind_run_ok (GoM.ofOptionPanic_ok_iff.mpr ⟨hlast, rfl⟩),
    GoM.bind_run_ok (orPanic_ok_iff.mpr ⟨hposition, rfl⟩)]
  exact ⟨_, _, rfl⟩

theorem wrapStart_info : (wrapStart.ms.wasm.getContractInfo wrapContract).map
    (fun info => (info.admin, info.ibcPortID, info.codeID)) =
      some (markedText ibcCreator, "", 1) := by
  decide +kernel

theorem wrapStart_code : (wrapStart.ms.wasm.getCodeInfo 1).map (·.instantiateConfig) =
    some allowEverybody := by
  decide +kernel

/-- The contract can be migrated, and its history has `n` entries. -/
structure Migratable (st : ChainState Unit) (n : ℕ) : Prop where
  registered : ∃ (R : AccAddress → Option (Registration wrapKeeper.codec)) (r : _),
    HoldsRegistry st.ms.wasm R ∧ R wrapContract = some r ∧ r.history.length = n ∧
      r.info.admin = markedText ibcCreator ∧ r.info.ibcPortID = "" ∧ r.info.codeID = 1
  code : ∃ code, st.ms.wasm.getCodeInfo 1 = some code ∧ code.instantiateConfig = allowEverybody

/-- The migration of the contract to its own code. -/
def wrapMigration : KeeperCall :=
  .top (.entry (.migrate ibcCtx wrapContract ibcCreator 1 [] .default))

/-- What the migration does: one more entry in the history, and no code file. -/
structure WrapStep (st st' : ChainState Unit) : Prop where
  registry : ∃ info last position, st'.ms.wasm.registry =
    (st.ms.wasm.registerMigration wrapContract info last ⟨.migrate, 1, position, []⟩).registry
  files : st'.vm.codes = st.vm.codes
  started : st.ms.wasm.lastHistoryPosition wrapContract ≠ 0

/-- A migration adds to the history, and goes on at zero behind the last position. -/
theorem Migratable.step {P : KeeperCall → Prop} (hP : P wrapMigration)
    {st : ChainState Unit} {n : ℕ} (h : Migratable st n) :
    ∃ st', ChainStep wrapKeeper sendMessenger P st st' ∧ WrapStep st st' ∧
      (n + 1 < 2 ^ 64 → Migratable st' (n + 1)) ∧
      (¬ n + 1 < 2 ^ 64 → Wrapped st'.ms.wasm) := by
  obtain ⟨⟨R, r, hR, hr, rfl, hadmin, hport, hid⟩, code, hcode, hconfig⟩ := h
  let w := st.world () (.infinite 0) none
  have hold : w.ms.wasm.getContractInfo wrapContract = some r.info := by
    rw [show w.ms.wasm = st.ms.wasm from rfl, hR.contracts, hr]
    rfl
  have hdecoded : r.info.adminAddr wrapKeeper.codec = .ok (some ibcCreator) := by
    rw [ContractInfo.adminAddr, hadmin]
    decide +kernel
  have hlast : w.ms.wasm.lastContractHistoryEntry wrapContract = some r.last := by
    rw [show w.ms.wasm = st.ms.wasm from rfl, hR.histories.lastContractHistoryEntry_eq, hr]
    exact r.getLast_eq
  have hstarted : st.ms.wasm.lastHistoryPosition wrapContract ≠ 0 := by
    have hlt := hR.histories.length_lt wrapContract
    rw [hR.histories.lastHistoryPosition_eq, hr]
    rw [hr] at hlt
    intro hzero
    have hnat := congrArg UInt64.toNat hzero
    rw [UInt64.toNat_ofNat', Nat.mod_eq_of_lt hlt] at hnat
    have hnil : r.history = [] := List.length_eq_zero_iff.mp hnat
    have hhead := r.head_eq
    rw [hnil] at hhead
    cases hhead
  obtain ⟨info, w', hrun⟩ :
      ∃ info w', wrapKeeper.migrateContract ibcCtx wrapContract ibcCreator 1 []
      .default w = (.ok (info, none), w') :=
    migrateContract_uncalled (v := 1) [] hold hdecoded (by decide) hcode (by rw [hconfig]; rfl) rfl
      hport (hid ▸ hcode) rfl rfl rfl hlast rfl
  have hcall : wrapMigration.run wrapKeeper sendMessenger (st.world () (.infinite 0) none) =
      (.ok (), w') := by
    show ((wrapKeeper.migrate ibcCtx wrapContract ibcCreator 1 [] .default >>= fun _ => pure () :
      KeeperScript Unit Unit Unit)).run (wrapKeeper.handler sendMessenger) w = _
    rw [Script.run_bind]
    refine GoM.bind_ok_iff.mpr ⟨none, w', ?_, rfl⟩
    exact GoM.bind_ok_iff.mpr ⟨_, w', hrun, rfl⟩
  obtain ⟨old, admin, codeInfo, last, position, hold', -, -, hcode', -, hlast', -, hinfo, hregistry,
    -, hquiet⟩ := migrateContract_ok hrun
  cases hold.symm.trans hold'
  cases hlast.symm.trans hlast'
  refine ⟨⟨w'.ms, w'.shared.vm⟩, .ok hP hcall, ⟨⟨_, _, _, hregistry⟩, hquiet.files, hstarted⟩,
    fun hlength => ?_, fun hlength => ?_⟩
  · have hreg := hR.registerMigration (e := ⟨.migrate, 1, position, []⟩) hr hlength
      (hinfo.codeID ▸ Option.isSome_iff_exists.mpr ⟨code, hcode⟩) hinfo.creator hinfo.created
      hinfo.codeID.symm
    obtain ⟨report, hreport, -, hports⟩ := hinfo.ibcPortID
    cases hreport
    refine ⟨⟨_, _, hreg.congr_registry hregistry, Function.update_self _ _ _, ?_, ?_, ?_,
      hinfo.codeID⟩, code, ?_, hconfig⟩
    · exact List.length_append
    · exact hinfo.admin.trans hadmin
    · exact hports.trans hport
    · exact (congrArg (·.getCodeInfo 1) hregistry).trans hcode
  · obtain ⟨a, ha⟩ := hR.wraps hr hlength ⟨.migrate, 1, position, []⟩
    refine ⟨a, ?_⟩
    rw [show w'.ms.wasm.history = _ from congrArg (·.history) hregistry]
    exact ha

/-- Enough migrations make the history wrap around, with what each of them keeps. -/
theorem Migratable.wraps {P : KeeperCall → Prop} (hP : P wrapMigration) {J : ChainState Unit → Prop}
    (hJ : ∀ st st', WrapStep st st' → J st → J st') (d : ℕ) {st : ChainState Unit} {n : ℕ}
    (h : Migratable st n) (hst : J st) (hd : n + d + 1 = 2 ^ 64) :
    ∃ st', Reached wrapKeeper sendMessenger P st st' ∧ Wrapped st'.ms.wasm ∧ J st' := by
  induction d generalizing st n with
  | zero =>
      obtain ⟨st', hstep, hdid, -, hwrapped⟩ := h.step hP
      exact ⟨st', .single hstep, hwrapped (by omega), hJ _ _ hdid hst⟩
  | succ d ih =>
      obtain ⟨st₁, hstep, hdid, hmigratable, -⟩ := h.step hP
      obtain ⟨st', hrun, hwrapped, hst'⟩ := ih (hmigratable (by omega)) (hJ _ _ hdid hst) (by omega)
      exact ⟨st', hrun.head hstep, hwrapped, hst'⟩

/-- The contract can be migrated until its history wraps around. -/
theorem wrapStart_wraps {P : KeeperCall → Prop} (hP : P wrapMigration) {J : ChainState Unit → Prop}
    (hJ : ∀ st st', WrapStep st st' → J st → J st') (hst : J wrapStart) :
    ∃ st, Reached wrapKeeper sendMessenger P wrapStart st ∧ Wrapped st.ms.wasm ∧ J st := by
  rcases registry_or_wrapped (wrapStart_reached fun _ hcall => hcall) with ⟨R, hR⟩ | hwrapped
  · obtain ⟨info, hinfo, hfields⟩ := Option.map_eq_some_iff.mp wrapStart_info
    obtain ⟨code, hcode⟩ := Option.map_eq_some_iff.mp wrapStart_code
    obtain ⟨r, hr, rfl⟩ := hR.registration hinfo
    simp only [Prod.mk.injEq] at hfields
    have hlength := hR.histories.length_lt wrapContract
    rw [hr] at hlength
    obtain ⟨d, hd⟩ : ∃ d, r.history.length + d + 1 = 2 ^ 64 := by
      refine ⟨2 ^ 64 - r.history.length - 1, ?_⟩
      simp only [Option.map_some, Option.getD_some] at hlength
      omega
    have hmigratable : Migratable wrapStart r.history.length :=
      ⟨⟨R, r, hR, hr, rfl, hfields⟩, code, hcode⟩
    exact hmigratable.wraps hP hJ d hst hd
  · exact ⟨wrapStart, .refl, hwrapped, hst⟩

/-- **The registry invariant can be broken**, by migrating a contract until the `uint64` position in
its history wraps around. -/
theorem registry_wraps : ∃ st,
    Reached wrapKeeper sendMessenger (fun _ => True) (.initial (some defaultParams) ()) st ∧
      ¬ (Registry wrapKeeper.codec st.ms.wasm ∧ Listed wrapKeeper.codec st.ms.wasm) := by
  have hbroken : ∀ st : ChainState Unit, Wrapped st.ms.wasm →
      ¬ (Registry wrapKeeper.codec st.ms.wasm ∧ Listed wrapKeeper.codec st.ms.wasm) := by
    rintro st hwrapped ⟨⟨R, hR⟩, -⟩
    exact hR.not_wrapped hwrapped
  obtain ⟨st, hrun, hwrapped, -⟩ := wrapStart_wraps (P := fun _ => True) trivial
    (J := fun _ => True) (fun _ _ _ _ => trivial) trivial
  exact ⟨st, (wrapStart_reached fun _ _ => trivial).trans hrun, hbroken st hwrapped⟩

end Wasmd
