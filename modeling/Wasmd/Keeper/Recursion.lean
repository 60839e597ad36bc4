import Wasmd.Keeper.PortAgreement
import Wasmd.Keeper.Queries

/-!
# Recursion is bounded without gas

A contract may send messages to itself, and answer replies with more messages; the responses of
these calls are nested in one another.  `handleContractResponse` counts them in the context.

* `Chain.handleWith` — what handling a response does, when nested ones are left to a given handler.
* `OneDeeper` — what a call on a context hands on; `chain_dispatcher_congr` says that nothing else
  of the handler below is used.
* `Handled.depth` — the depth of a response in the tree.
* `BoundedCalls`, `recursion_bounded` — what the limits achieve.
-/

namespace Wasmd

open ByteStore Effects Gas MessageDispatcher Recursion

/-! ## Unrolling -/

section Chain

variable {μ ν K C L α : Type}

/-- Handling a response, when `handler` handles the ones nested in it. -/
def Chain.handleWith (c : Chain μ ν K C L) (handler : Response K C → CtxM μ ν (Option Bytes))
    (r : Response K C) : CtxM μ ν (Option Bytes) :=
  (c.dispatcher r.ctx handler).handle r.contract r.ibcPort r.msgs r.data

theorem Chain.handlerAt_eq_iterate (c : Chain μ ν K C L) (n : ℕ) :
    c.handlerAt n = c.handleWith^[n] fun _ => GoM.failWith (.registered errExceedMaxCallDepth) := by
  induction n with
  | zero => rfl
  | succ n ih =>
      rw [Function.iterate_succ_apply', ← ih]
      rfl

/-- A script runs alike with handlers that agree on what it hands on. -/
theorem Script.Sound.run_congr {D : Conduct μ ν K C L} (hD : ∀ w w', D.after w w')
    {h h' : Response K C → CtxM μ ν (Option Bytes)} (heq : ∀ r w, D.response r w → h r w = h' r w)
    {s : Script μ ν K C L α} {w : World μ ν} (hs : s.Sound D w) : s.run h w = s.run h' w := by
  induction s generalizing w with
  | done a => rfl
  | step x next ih => exact GoM.bind_run_congr rfl fun b w' hx => ih b (hs.2 b w' hx)
  | mark l next ih => exact ih hs.2
  | respond wrap r next ih =>
      refine GoM.bind_run_congr ?_ fun rsp w' _ => ih rsp (hs.2 rsp w' (hD w w'))
      unfold GoM.mapError
      rw [heq r w hs.1]

/-! ### Finitely many responses -/

theorem Script.finite_responds (handler : Response K C → CtxM μ ν (Option Bytes))
    (s : Script μ ν K C L α) (w : World μ ν) :
    {q : Response K C × World μ ν | s.Reaches handler w (.respond q.1) q.2}.Finite := by
  induction s generalizing w with
  | done a => exact Set.finite_empty.subset fun q hq => by cases hq
  | step x next ih =>
      cases hx : x w with
      | mk r w₁ =>
          cases r with
          | ok b =>
              refine (ih b w₁).subset fun q hq => ?_
              cases hq with
              | step hx' hrest =>
                  cases hx.symm.trans hx'
                  exact hrest
          | error e =>
              refine Set.finite_empty.subset fun q hq => ?_
              cases hq with
              | step hx' _ => cases hx.symm.trans hx'
  | mark l next ih =>
      refine (ih w).subset fun q hq => ?_
      cases hq with
      | pastMark hrest => exact hrest
  | respond wrap r next ih =>
      cases hx : handler r w with
      | mk res w₁ =>
          cases res with
          | ok rsp =>
              refine ((ih rsp w₁).insert (r, w)).subset ?_
              rintro ⟨r', w'⟩ (hq : Reaches handler _ w (.respond r') w')
              cases hq with
              | respond => exact .inl rfl
              | pastRespond hx' hrest =>
                  cases hx.symm.trans hx'
                  exact .inr hrest
          | error e =>
              refine (Set.finite_singleton (r, w)).subset ?_
              rintro ⟨r', w'⟩ (hq : Reaches handler _ w (.respond r') w')
              cases hq with
              | respond => rfl
              | pastRespond hx' _ => cases hx.symm.trans hx'

theorem finite_loopAt (d : MessageDispatcher μ ν C) (addr : AccAddress) (ibcPort : String)
    (msgs : List (SubMsg C)) (rsp : Option Bytes) (w : World μ ν) :
    {q : SubMsg C × World μ ν | LoopAt d addr ibcPort rsp msgs w q.1 q.2}.Finite := by
  induction msgs generalizing rsp w with
  | nil => exact Set.finite_empty.subset fun q hq => by cases hq
  | cons first rest ih =>
      cases hx : d.dispatchLoop addr ibcPort rsp [first] w with
      | mk r w₁ =>
          cases r with
          | ok rsp₁ =>
              refine ((ih rsp₁ w₁).insert (first, w)).subset ?_
              rintro ⟨msg, w'⟩ (hq : LoopAt d addr ibcPort rsp _ w msg w')
              cases hq with
              | here => exact .inl rfl
              | past hx' hrest =>
                  cases hx.symm.trans hx'
                  exact .inr hrest
          | error e =>
              refine (Set.finite_singleton (first, w)).subset ?_
              rintro ⟨msg, w'⟩ (hq : LoopAt d addr ibcPort rsp _ w msg w')
              cases hq with
              | here => rfl
              | past hx' _ => cases hx.symm.trans hx'

/-- A response in a tree: how many may be nested in it, the response and its world. -/
abbrev Node (μ ν K C : Type) := ℕ × Response K C × World μ ν

/-- The responses of a message or of the reply to it, when the loop is at the message. -/
def Chain.responses (c : Chain μ ν K C L) (n : ℕ) (r : Response K C) (msg : SubMsg C)
    (w : World μ ν) : Set (Response K C × World μ ν) :=
  {q | (c.onMsg r.ctx r.contract r.ibcPort msg.msg).Reaches (c.handlerAt n) (subWorld msg w)
    (.respond q.1) q.2} ∪
  match (c.dispatcherAt n r.ctx).sandbox r.contract r.ibcPort msg w with
  | (.ok outcome, w₃) => {q | (c.onReply r.ctx r.contract
      ⟨msg.id, (c.dispatcherAt n r.ctx).subMsgResult msg.msg outcome, msg.payload⟩).Reaches
      (c.handlerAt n) w₃ (.respond q.1) q.2}
  | (.error _, _) => ∅

theorem Chain.finite_responses (c : Chain μ ν K C L) (n : ℕ) (r : Response K C) (msg : SubMsg C)
    (w : World μ ν) : (c.responses n r msg w).Finite := by
  refine (Script.finite_responds _ _ _).union ?_
  split
  · exact Script.finite_responds _ _ _
  · exact Set.finite_empty

/-- The node `y` is directly below the node `x`. -/
def Chain.Below (c : Chain μ ν K C L) (x y : Node μ ν K C) : Prop :=
  x.1 = y.1 + 1 ∧ ∃ msg w₂, LoopAt (c.dispatcherAt y.1 x.2.1.ctx) x.2.1.contract x.2.1.ibcPort none
    x.2.1.msgs x.2.2 msg w₂ ∧ y.2 ∈ c.responses y.1 x.2.1 msg w₂

theorem Chain.finite_below (c : Chain μ ν K C L) (x : Node μ ν K C) : {y | c.Below x y}.Finite := by
  obtain ⟨n, r, w⟩ := x
  cases n with
  | zero => exact Set.finite_empty.subset fun y hy => by cases hy.1
  | succ n =>
      have hloop := finite_loopAt (c.dispatcherAt n r.ctx) r.contract r.ibcPort r.msgs none w
      refine ((hloop.biUnion fun q _ => c.finite_responses n r q.1 q.2).image (Prod.mk n)).subset ?_
      rintro ⟨n', y⟩ ⟨hn, msg, w₂, hat, hy⟩
      obtain rfl : n = n' := Nat.succ.inj hn
      exact ⟨y, Set.mem_biUnion (show (msg, w₂) ∈ _ from hat) hy, rfl⟩

/-- The tree is built of direct steps. -/
theorem Handled.reflTransGen {c : Chain μ ν K C L} {n n' : ℕ} {r r' : Response K C}
    {w w' : World μ ν} (h : Handled c n r w n' r' w') :
    Relation.ReflTransGen c.Below (n, r, w) (n', r', w') := by
  induction h with
  | root => exact .refl
  | message _ hloop hreach ih => exact ih.tail ⟨rfl, _, _, hloop, .inl hreach⟩
  | reply _ hloop hbox _ _ hreach ih =>
      refine ih.tail ⟨rfl, _, _, hloop, .inr ?_⟩
      rw [hbox]
      exact hreach

/-- **Finitely many responses are handled in a tree.** -/
theorem finite_handled (c : Chain μ ν K C L) (n : ℕ) (r : Response K C) (w : World μ ν) :
    {y : Node μ ν K C | Handled c n r w y.1 y.2.1 y.2.2}.Finite := by
  have hlower : ∀ x y : Node μ ν K C, c.Below x y → y.1 < x.1 := fun x y h => by
    rw [h.1]
    exact Nat.lt_succ_self _
  exact (Recursion.finite_below hlower c.finite_below (n, r, w)).subset fun y hy => hy.reflTransGen

end Chain

/-! ## Depths -/

variable {ε C : Type} {k : Keeper ε C} {m : Messenger ε C}

/-- A response that a call on a context at `depth` hands on. -/
structure OneDeeper (k : Keeper ε C) (depth : UInt32) (r : Response SdkContext C) : Prop where
  depth_eq : r.ctx.depth = depth + 1
  depth_le : depth + 1 ≤ k.maxCallDepth

theorem OnContext.oneDeeper {ctx : SdkContext} {r : Response SdkContext C} (h : OnContext k ctx r) :
    OneDeeper k ctx.depth r :=
  ⟨by rw [h.ctx_eq]; rfl, h.depth_le⟩

theorem depth_callContext (k : Keeper ε C) (ctx : SdkContext) (msg : WasmMsg) :
    (k.callContext ctx msg).depth = ctx.depth := by
  unfold Keeper.callContext
  split <;> rfl

/-- Nothing is asked of calls. -/
def freeConduct (_ : Keeper ε C) (response : Response SdkContext C → Prop) :
    Conduct (Multistore ε) Shared SdkContext C Guarded where
  call _ _ := True
  mark _ _ := True
  response r _ := response r
  after _ _ := True

instance freeConduct_admits (k : Keeper ε C) (response : Response SdkContext C → Prop) :
    (freeConduct k response).Admits k true where
  ofExcept _ _ := trivial
  bind _ _ := trivial
  mapError _ := trivial
  sandbox _ _ _ _ _ _ := trivial
  refl _ := trivial
  trans _ _ := trivial
  frame _ _ _ := trivial
  of_ok _ _ := trivial
  edits _ := trivial

section Scripts

variable {w : World (Multistore ε) Shared} {ctx : SdkContext}

theorem onMsg_oneDeeper {contract : AccAddress} {port : String} {msg : C} :
    (k.dispatchCosmosMsg m ctx contract port msg).Sound (freeConduct k (OneDeeper k ctx.depth)) w :=
  dispatchCosmosMsg_sound (fun _ => rfl) (fun _ _ _ _ => trivial)
    (fun msg _ _ _ ha => depth_callContext k ctx msg ▸ ha.oneDeeper) (fun _ _ ha => ha.oneDeeper)
    fun _ => trivial

theorem onReply_oneDeeper {contract : AccAddress} {reply : Reply} :
    (k.reply ctx contract reply).Sound (freeConduct k (OneDeeper k ctx.depth)) w :=
  reply_sound fun _ _ ha => ha.oneDeeper

end Scripts

/-! ## Calls from outside -/

/-- A call of the keeper from outside: an entry point of a contract, or a message of the module. -/
inductive TopCall where
  | entry (call : EntryCall)
  | message (ctx : SdkContext) (msg : WasmMsg)

namespace TopCall

/-- What the call does. -/
def script (k : Keeper ε C) (m : Messenger ε C) : TopCall → KeeperScript ε C Unit
  | .entry call => call.script k
  | .message ctx msg => do
    let _ ← k.msgServer m.lib ctx msg
    return ()

/-- The context of the call. -/
def ctx : TopCall → SdkContext
  | .entry call => call.ctx
  | .message ctx _ => ctx

end TopCall

theorem TopCall.oneDeeper (call : TopCall) {w : World (Multistore ε) Shared} :
    (call.script k m).Sound (freeConduct k (OneDeeper k call.ctx.depth)) w := by
  cases call with
  | entry call =>
      exact EntryCall.sound (fun _ _ => trivial)
        (fun r _ ha => (call.callContext_depth.1 ▸ ha.oneDeeper : OneDeeper k call.ctx.depth r))
        fun _ _ _ _ _ => trivial
  | message ctx msg =>
      exact discard_sound (msgServer_sound (fun _ => rfl) (fun _ _ => trivial) fun _ _ ha =>
        depth_callContext k ctx msg ▸ ha.oneDeeper)

/-! ## The bound -/

/-- What a script gets to, when nothing is asked of its steps. -/
theorem Script.Reaches.free {α : Type} {handler : Response SdkContext C → KeeperM ε (Option Bytes)}
    {response : Response SdkContext C → Prop} {s : KeeperScript ε C α}
    {w w' : World (Multistore ε) Shared} {r : Response SdkContext C}
    (h : s.Reaches handler w (.respond r) w') (hs : s.Sound (freeConduct k response) w) :
    response r :=
  h.sound (freeConduct_admits k response).toLawful (fun _ _ _ => trivial) hs

/-- **The depth of a response in the tree**: it grows by one as fewer responses are allowed
below. -/
theorem Handled.depth (hmax : k.maxCallDepth.toNat < 2 ^ 32 - 1) {n n' : ℕ}
    {r r' : Response SdkContext C} {w w' : World (Multistore ε) Shared}
    (h : Handled (k.chain m) n r w n' r' w') (hr : r.ctx.depth.toNat ≤ k.maxCallDepth.toNat) :
    r'.ctx.depth.toNat + n' = r.ctx.depth.toNat + n ∧
      r'.ctx.depth.toNat ≤ k.maxCallDepth.toNat := by
  have hstep : ∀ {r₁ r₂ : Response SdkContext C}, r₁.ctx.depth.toNat ≤ k.maxCallDepth.toNat →
      OneDeeper k r₁.ctx.depth r₂ → r₂.ctx.depth.toNat = r₁.ctx.depth.toNat + 1 ∧
        r₂.ctx.depth.toNat ≤ k.maxCallDepth.toNat := by
    intro r₁ r₂ h₁ h₂
    have hsucc := toNat_succ_of_lt hmax h₁
    have hle := UInt32.le_iff_toNat_le.mp h₂.depth_le
    rw [h₂.depth_eq]
    exact ⟨hsucc, hle⟩
  induction h with
  | root => exact ⟨rfl, hr⟩
  | message _ _ hreach ih =>
      have := hstep ih.2 (hreach.free onMsg_oneDeeper)
      omega
  | reply _ _ _ _ _ hreach ih =>
      have := hstep ih.2 (hreach.free onReply_oneDeeper)
      omega

/-- The dispatcher uses a handler on deeper responses only. -/
theorem chain_dispatcher_congr {ctx : SdkContext}
    {h h' : Response SdkContext C → KeeperM ε (Option Bytes)}
    (heq : ∀ r, OneDeeper k ctx.depth r → h r = h' r) :
    (k.chain m).dispatcher ctx h = (k.chain m).dispatcher ctx h' := by
  unfold Chain.dispatcher
  congr 1
  · funext addr ibcPort msg w
    exact onMsg_oneDeeper.run_congr (fun _ _ => trivial) fun r w hr => by rw [heq r hr]
  · funext addr reply w
    exact onReply_oneDeeper.run_congr (fun _ _ => trivial) fun r w hr => by rw [heq r hr]

theorem handleWith_goesDown (hmax : k.maxCallDepth.toNat < 2 ^ 32 - 1) :
    GoesDown (fun r : Response SdkContext C => room k.maxCallDepth r.ctx.depth)
      (k.chain m).handleWith := by
  intro h h' r heq
  have hdispatcher : (k.chain m).dispatcher r.ctx h = (k.chain m).dispatcher r.ctx h' := by
    refine chain_dispatcher_congr fun r' hr' => heq r' ?_
    show room k.maxCallDepth r'.ctx.depth < room k.maxCallDepth r.ctx.depth
    rw [hr'.depth_eq]
    exact room_lt hmax hr'.depth_le
  unfold Chain.handleWith
  rw [hdispatcher]

/-- A response at the limit is not handled: it fails, with nothing dispatched, where a less deep one
would have been handled. -/
theorem handleContractResponse_tooDeep (hmax : k.maxCallDepth.toNat < 2 ^ 32 - 1)
    {ctx : SdkContext} (hdeep : ctx.depth = k.maxCallDepth) {a : AccAddress} {entry : EntryPoint}
    {port : String} {wrap : GoError → GoError} {res : ContractResponse C} {data : Option Bytes}
    {w w' : World (Multistore ε) Shared}
    {handler : Response SdkContext C → KeeperM ε (Option Bytes)} {shallow ctx' : SdkContext}
    (h : k.emitResponse shallow a res.attributes res.events w = (.ok ctx', w')) :
    (k.handleContractResponse ctx a entry port wrap res data).run handler w =
      (.error (.error (wrap (.registered errExceedMaxCallDepth))), w') := by
  have hcheck : checkAndIncreaseCallDepth ctx k.maxCallDepth =
      .error (.registered errExceedMaxCallDepth) := by
    have hlt : k.maxCallDepth < k.maxCallDepth + 1 := by
      rw [UInt32.lt_iff_toNat_lt, toNat_succ_of_lt hmax (Nat.le_refl _)]
      omega
    unfold SdkContext.depth at hdeep
    simp [checkAndIncreaseCallDepth, hdeep, hlt]
  -- the charge and the events are those of the less deep response
  have hemit : k.emitResponse ctx a res.attributes res.events w =
      (.error (.error (.registered errExceedMaxCallDepth)), w') := by
    obtain ⟨_, w₁, h₁, hrest⟩ := GoM.bind_ok_iff.mp h
    obtain ⟨_, w₂, h₂, hrest⟩ := GoM.bind_ok_iff.mp hrest
    obtain ⟨_, w₃, h₃, hrest⟩ := GoM.bind_ok_iff.mp hrest
    obtain ⟨_, w₄, h₄, hrest⟩ := GoM.bind_ok_iff.mp hrest
    obtain ⟨_, w₅, h₅, hrest⟩ := GoM.bind_ok_iff.mp hrest
    obtain ⟨_, w₆, h₆, hrest⟩ := GoM.bind_ok_iff.mp hrest
    obtain ⟨-, rfl⟩ := orError_ok_iff.mp hrest
    unfold Keeper.emitResponse
    rw [GoM.bind_run_ok h₁, GoM.bind_run_ok h₂, GoM.bind_run_ok h₃, GoM.bind_run_ok h₄,
      GoM.bind_run_ok h₅, GoM.bind_run_ok h₆, hcheck]
    rfl
  have hwrapped : GoM.mapError wrap (k.emitResponse ctx a res.attributes res.events) w =
      (.error (.error (wrap (.registered errExceedMaxCallDepth))), w') := by
    unfold GoM.mapError
    rw [hemit]
  exact GoM.bind_run_error hwrapped _

/-- What the limit on the call depth achieves. -/
structure BoundedCalls (k : Keeper ε C) (m : Messenger ε C) : Prop where
  /-- The number of responses that are being handled on a path is bounded. -/
  active : ∀ (call : TopCall) (n n' : ℕ) (r r' : Response SdkContext C)
    (w w₁ w' : World (Multistore ε) Shared), call.ctx.callDepth = none →
    (call.script k m).Reaches ((k.chain m).handlerAt n) w (.respond r) w₁ →
    Handled (k.chain m) n r w₁ n' r' w' →
      r'.ctx.depth.toNat = n - n' + 1 ∧ n - n' + 1 ≤ k.maxCallDepth.toNat
  /-- One that is nested more deeply fails, with nothing dispatched, where it would be handled
  otherwise. -/
  tooDeep : ∀ (ctx shallow ctx' : SdkContext) (a : AccAddress) (entry : EntryPoint) (port : String)
    (wrap : GoError → GoError) (res : ContractResponse C) (data : Option Bytes)
    (w w' : World (Multistore ε) Shared)
    (handler : Response SdkContext C → KeeperM ε (Option Bytes)),
    ctx.depth = k.maxCallDepth →
    k.emitResponse shallow a res.attributes res.events w = (.ok ctx', w') →
      (k.handleContractResponse ctx a entry port wrap res data).run handler w =
        (.error (.error (wrap (.registered errExceedMaxCallDepth))), w')
  /-- Finitely many are handled. -/
  finite : ∀ (call : TopCall) (n : ℕ) (w : World (Multistore ε) Shared),
    {y : Node (Multistore ε) Shared SdkContext C | ∃ r w₁,
      (call.script k m).Reaches ((k.chain m).handlerAt n) w (.respond r) w₁ ∧
        Handled (k.chain m) n r w₁ y.1 y.2.1 y.2.2}.Finite
  /-- The handler does what the dispatcher does, with itself below. -/
  handles : (k.chain m).handleWith ((k.chain m).handlerAt (k.maxCallDepth.toNat + 2)) =
    (k.chain m).handlerAt (k.maxCallDepth.toNat + 2)
  /-- Calls end: they are unrolled in a bounded number of rounds, whatever is below them. -/
  terminates : ∀ beyond n, k.maxCallDepth.toNat + 1 < n →
    (k.chain m).handleWith^[n] beyond = (k.chain m).handlerAt (k.maxCallDepth.toNat + 2)

theorem calls_bounded (k : Keeper ε C) (m : Messenger ε C)
    (hmax : k.maxCallDepth.toNat < 2 ^ 32 - 1) : BoundedCalls k m where
  active call n n' r r' w w₁ w' hnone hreach hhandled := by
    have hzero : call.ctx.depth = 0 := by
      unfold SdkContext.depth
      rw [hnone]
      rfl
    have hroot := hreach.free call.oneDeeper
    rw [hzero] at hroot
    have hone : r.ctx.depth.toNat = 1 := by
      rw [hroot.depth_eq]
      rfl
    have hle := UInt32.le_iff_toNat_le.mp hroot.depth_le
    rw [← hroot.depth_eq, hone] at hle
    have hdepth := hhandled.depth hmax (by omega)
    have hroot' := hhandled.root_or_lt
    omega
  tooDeep ctx shallow ctx' a entry port wrap res data w w' handler hdeep h :=
    handleContractResponse_tooDeep hmax hdeep h
  finite call n w := by
    refine ((Script.finite_responds ((k.chain m).handlerAt n) (call.script k m) w).biUnion
      fun q _ => finite_handled (k.chain m) n q.1 q.2).subset ?_
    rintro y ⟨r, w₁, hreach, hhandled⟩
    exact Set.mem_biUnion (show (r, w₁) ∈ _ from hreach) hhandled
  handles := by
    rw [Chain.handlerAt_eq_iterate]
    exact (handleWith_goesDown hmax).isFixedPt_iterate (fun r => room_le _ _) _ (Nat.lt_succ_self _)
  terminates beyond n hn := by
    rw [Chain.handlerAt_eq_iterate]
    exact (handleWith_goesDown hmax).iterate_eq_of_le (fun r => room_le _ _) _ _ hn
      (Nat.lt_succ_self _)

/-- **Recursion is bounded without gas**: queries and calls nest up to their limits, finitely many
are made, and they end. -/
theorem recursion_bounded (k : Keeper ε C) (m : Messenger ε C)
    (plans : SdkContext → AccAddress → Bytes → QueryPlan ε) (vm : VMState)
    (hcalls : k.maxCallDepth.toNat < 2 ^ 32 - 1)
    (hqueries : k.maxQueryStackSize.toNat < 2 ^ 32 - 1) :
    ∃ handler, BoundedQueries k plans vm handler ∧ BoundedCalls (k.withQueries handler) m := by
  obtain ⟨handler, hbounded⟩ := queries_bounded k plans vm hqueries
  exact ⟨handler, hbounded, calls_bounded (k.withQueries handler) m hcalls⟩

/-- Contracts that query themselves, and answer every call and every reply with a message to
themselves. -/
def loopVM : WasmVM Unit :=
  { plainVM Unit with
    call := fun _ _ _ _ =>
      .query [] fun _ => .ret (some (.ok ⟨[⟨0, [], (), none, .always⟩], [], [], none⟩))
    query := fun _ _ _ _ => .query [] fun _ => .ret (.ok []) }

/-- The keeper with these contracts. -/
def loopKeeper : Keeper Unit Unit := { plainKeeper Unit with wasmVM := loopVM }

/-- The message executes the contract that sends it. -/
def loopMessenger : Messenger Unit Unit :=
  { sendMessenger with
    isWasm := fun _ => true
    variant := fun _ => .sdk fun _ contract _ =>
      pure [.wasm (.executeContract (markedText contract) (markedText contract) [] [])] }

theorem recursion_bounded_loop :
    loopKeeper.maxCallDepth.toNat < 2 ^ 32 - 1 ∧ loopKeeper.maxQueryStackSize.toNat < 2 ^ 32 - 1 ∧
      ∃ handler, BoundedQueries loopKeeper (fun _ caller _ => .smart caller [] .done) ⟨∅, []⟩
        handler ∧
        BoundedCalls (loopKeeper.withQueries handler) loopMessenger :=
  ⟨by decide, by decide,
    recursion_bounded loopKeeper loopMessenger _ ⟨∅, []⟩ (by decide) (by decide)⟩

end Wasmd
