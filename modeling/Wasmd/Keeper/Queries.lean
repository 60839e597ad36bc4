import Wasmd.Keeper.Entry
import Wasmd.Lib.Recursion

/-!
# Queries of contracts

A contract may query the chain while it runs, and a query may run another contract, which queries
in turn.  `query_plugins.go` passes the context of a query on to `QuerySmart`, which counts how
deeply queries are nested.

* `QueryPlan` — what the plugins do with a request: reads of the chain and smart queries.
* `Keeper.answerWith` — `HandleQuery`, with smart queries whose contracts ask a given handler.
* `VMEnv.requests`, `QueryPlan.asked`, `SmartQuery.made` — the queries a run, a request and a smart
  query make directly; nothing else of the handler is used (`exec_congr`, `run_congr`).
* `BoundedQueries` — what the limit on nested queries achieves, and `queries_bounded` that it does.
-/

namespace Wasmd

open ByteStore Effects Gas Recursion

variable {ε C ρ : Type}

/-- A query: it works on a copy of the multistore, and of what is not rolled back it touches the
contracts of the transaction. -/
abbrev QueryM (ε : Type) := CtxM (Multistore ε) (Option (List Bytes))

/-- The world of a query. -/
abbrev QueryWorld (ε : Type) := World (Multistore ε) (Option (List Bytes))

/-- `HandleQuery`: the context, the caller and the request. -/
abbrev QueryHandler (ε : Type) := SdkContext → AccAddress → Bytes → QueryM ε Bytes

/-! ## Requests -/

/-- What the plugins do with a request.  Smart queries are made on the context of the request. -/
inductive QueryPlan (ε : Type) : Type 1 where
  | done (res : Except (Failure GoError) Bytes)
  | step {β : Type} (x : QueryM ε β) (next : Except (Failure GoError) β → QueryPlan ε)
  | smart (contract : AccAddress) (req : Bytes)
      (next : Except (Failure GoError) Bytes → QueryPlan ε)

namespace QueryPlan

/-- The plan with a way to make smart queries. -/
def run (ask : AccAddress → Bytes → QueryM ε Bytes) : QueryPlan ε → QueryM ε Bytes
  | done res => fun w => (res, w)
  | step x next => fun w => (next (x w).1).run ask (x w).2
  | smart contract req next => fun w => (next (ask contract req w).1).run ask (ask contract req w).2

/-- The smart queries that are made, with their worlds. -/
def asked (ask : AccAddress → Bytes → QueryM ε Bytes) :
    QueryPlan ε → QueryWorld ε → List (AccAddress × Bytes × QueryWorld ε)
  | done _, _ => []
  | step x next, w => (next (x w).1).asked ask (x w).2
  | smart contract req next, w =>
    (contract, req, w) :: (next (ask contract req w).1).asked ask (ask contract req w).2

/-- The result of a plan depends on the smart queries it makes. -/
theorem run_congr {ask ask' : AccAddress → Bytes → QueryM ε Bytes} {plan : QueryPlan ε}
    {w : QueryWorld ε} (h : ∀ q ∈ plan.asked ask w, ask' q.1 q.2.1 q.2.2 = ask q.1 q.2.1 q.2.2) :
    plan.run ask' w = plan.run ask w := by
  induction plan generalizing w with
  | done res => rfl
  | step x next ih => exact ih _ h
  | smart contract req next ih =>
      have hhere : ask' contract req w = ask contract req w := h _ (List.mem_cons_self ..)
      show (next (ask' contract req w).1).run ask' (ask' contract req w).2 = _
      rw [hhere]
      exact ih _ fun q hq => h q (List.mem_cons_of_mem _ hq)

end QueryPlan

/-- The world of a query as a world of the keeper; a query does not look at the VM. -/
def withVM (vm : VMState) (w : QueryWorld ε) : World (Multistore ε) Shared :=
  ⟨w.ms, w.gas, w.events, ⟨w.shared, vm⟩⟩

/-- A call of the keeper as a query. -/
def asQuery (vm : VMState) (x : KeeperM ε Bytes) : QueryM ε Bytes := fun w =>
  ((x (withVM vm w)).1,
    ⟨(x (withVM vm w)).2.ms, (x (withVM vm w)).2.gas, (x (withVM vm w)).2.events,
      (x (withVM vm w)).2.shared.txContracts⟩)

namespace Keeper

/-- The keeper with a handler for the queries of its contracts. -/
def withQueries (k : Keeper ε C) (handler : QueryHandler ε) : Keeper ε C :=
  { k with handleQuery := handler }

/-- `HandleQuery` when the contracts it runs ask `handler`. -/
def answerWith (k : Keeper ε C) (plans : SdkContext → AccAddress → Bytes → QueryPlan ε)
    (vm : VMState) (handler : QueryHandler ε) : QueryHandler ε := fun ctx caller request =>
  (plans ctx caller request).run fun contract req =>
    asQuery vm ((k.withQueries handler).querySmart ctx contract req)

end Keeper

/-! ## Depths -/

/-- How often a counter that is at `depth` may still grow under the limit `max`.  At the largest
value it wraps around. -/
def room (max depth : UInt32) : ℕ :=
  if depth.toNat = 2 ^ 32 - 1 then max.toNat + 1 else max.toNat - depth.toNat

theorem room_le (max depth : UInt32) : room max depth ≤ max.toNat + 1 := by
  unfold room
  split <;> omega

theorem toNat_succ_of_lt {max depth : UInt32} (hmax : max.toNat < 2 ^ 32 - 1)
    (h : depth.toNat ≤ max.toNat) : (depth + 1).toNat = depth.toNat + 1 := by
  rw [UInt32.toNat_add]
  show (depth.toNat + 1) % 2 ^ 32 = _
  omega

/-- One deeper, there is less room. -/
theorem room_lt {max depth : UInt32} (hmax : max.toNat < 2 ^ 32 - 1) (h : depth + 1 ≤ max) :
    room max (depth + 1) < room max depth := by
  have hle := UInt32.le_iff_toNat_le.mp h
  have hlt := depth.toNat_lt
  have hsucc : (depth + 1).toNat = (depth.toNat + 1) % 2 ^ 32 := UInt32.toNat_add depth 1
  unfold room
  by_cases hd : depth.toNat = 2 ^ 32 - 1
  · have hzero : (depth + 1).toNat = 0 := by omega
    rw [if_pos hd, if_neg (by omega)]
    omega
  · rw [if_neg hd, if_neg (by omega)]
    omega

/-- The context one query deeper. -/
def SdkContext.deeperQuery (ctx : SdkContext) : SdkContext :=
  { ctx with queryStackSize := some (ctx.queryStackSize.getD 0 + 1) }

theorem checkAndIncreaseQueryStackSize_ok {ctx ctx' : SdkContext} {max : UInt32}
    (h : checkAndIncreaseQueryStackSize ctx max = .ok ctx') :
    ctx' = ctx.deeperQuery ∧ ctx.queryStackSize.getD 0 + 1 ≤ max := by
  unfold checkAndIncreaseQueryStackSize at h
  dsimp only at h
  split at h
  · cases h
  · rename_i hle
    exact ⟨(Except.ok.inj h).symm, UInt32.not_lt.mp hle⟩

/-! ## The requests of a run -/

namespace VMEnv

variable (env : VMEnv ε) (lim : VMLimits)

/-- The world `HandleQuery` is called in. -/
def queryWorld (gasLimit : UInt64) (w : World (Multistore ε) Shared) : QueryWorld ε :=
  ⟨w.ms, .newGasMeter (env.gasRegister.fromWasmVMGas gasLimit), [], w.shared.txContracts⟩

/-- What follows an access to storage, if the contract is not stopped at it. -/
def afterAccess (a : StorageAccess) (used : Nat) (w : World (Multistore ε) Shared)
    (next : World (Multistore ε) Shared → List (Bytes × QueryWorld ε)) :
    List (Bytes × QueryWorld ε) :=
  if env.running lim used w.gas then
    match w.gas.consumeGas (env.storageGas a) "contract storage" with
    | (.ok (), m) => next { w with gas := m }
    | (.error _, _) => []
  else []

/-- The requests of a run, with the worlds they are handled in. -/
def requests : ContractRun ρ → Nat → World (Multistore ε) Shared → List (Bytes × QueryWorld ε)
  | .ret _, _, _ => []
  | .abort _, _, _ => []
  | .compute gas next, used, w =>
    if env.running lim used w.gas then requests next (used + gas.toNat) w else []
  | .get key next, used, w =>
    env.afterAccess lim (.get key w.ms.wasm.contractState[env.stateKey key]?) used w
      (requests (next w.ms.wasm.contractState[env.stateKey key]?) used)
  | .set key value next, used, w =>
    if key = [] then [] else
    env.afterAccess lim (.set key value) used w fun w' =>
      requests next used (setState w' (w'.ms.wasm.contractState.insert (env.stateKey key) value))
  | .remove key next, used, w =>
    env.afterAccess lim (.remove key) used w fun w' =>
      requests next used (setState w' (w'.ms.wasm.contractState.erase (env.stateKey key)))
  | .scan next, used, w =>
    let found := KVStore.entries w.ms.wasm.contractState (contractStorePrefix env.contract)
    env.afterAccess lim (.scan found) used w (requests (next found) used)
  | .query request next, used, w =>
    if env.running lim used w.gas then
      (request, env.queryWorld (env.queryGas lim used w.gas) w) ::
        match env.query request (env.queryGas lim used w.gas) w with
        | (.ok answer, w') => requests (next answer) used w'
        | (.error _, _) => []
    else []

variable {env lim}

/-- The environment with another handler for queries. -/
def asking (env : VMEnv ε) (handler : Bytes → QueryM ε Bytes) : VMEnv ε :=
  { env with handleQuery := handler }

theorem whenRunning_congr {handler : Bytes → QueryM ε Bytes} {used : Nat}
    {next next' : KeeperM ε (VMOutcome ρ)} {w : World (Multistore ε) Shared}
    (h : env.running lim used w.gas = true → next' w = next w) :
    (env.asking handler).whenRunning lim used next' w = env.whenRunning lim used next w := by
  unfold whenRunning
  show (if env.running lim used w.gas then _ else _) = _
  split
  · rename_i hrun
    exact h hrun
  · rfl

/-- What follows an access is the same if it is so for every request after it. -/
theorem access_congr {handler : Bytes → QueryM ε Bytes} {a : StorageAccess} {used : Nat}
    {next next' : KeeperM ε (VMOutcome ρ)} {w : World (Multistore ε) Shared}
    {rest : World (Multistore ε) Shared → List (Bytes × QueryWorld ε)}
    (hrun : env.running lim used w.gas = true)
    (h : ∀ p ∈ env.afterAccess lim a used w rest, handler p.1 p.2 = env.handleQuery p.1 p.2)
    (hnext : ∀ m, (∀ p ∈ rest { w with gas := m }, handler p.1 p.2 = env.handleQuery p.1 p.2) →
      next' { w with gas := m } = next { w with gas := m }) :
    (env.asking handler).access a used next' w = env.access a used next w := by
  unfold afterAccess at h
  rw [if_pos hrun] at h
  unfold access asking
  dsimp only
  cases hc : w.gas.consumeGas (env.storageGas a) "contract storage" with
  | mk r m =>
      rw [hc] at h
      cases r with
      | ok u => exact hnext m h
      | error p => rfl

theorem query_congr {handler : Bytes → QueryM ε Bytes} {request : Bytes} {gasLimit : UInt64}
    {w : World (Multistore ε) Shared}
    (h : handler request (env.queryWorld gasLimit w) =
      env.handleQuery request (env.queryWorld gasLimit w)) :
    (env.asking handler).query request gasLimit w = env.query request gasLimit w := by
  unfold queryWorld at h
  simp only [query, asking, h]

/-- **The end of a run depends on the requests it makes**, by induction on what the contract
does. -/
theorem exec_congr {handler : Bytes → QueryM ε Bytes} (run : ContractRun ρ) :
    ∀ used w, (∀ p ∈ env.requests lim run used w, handler p.1 p.2 = env.handleQuery p.1 p.2) →
      (env.asking handler).exec lim run used w = env.exec lim run used w := by
  induction run with
  | ret res => exact fun _ _ _ => rfl
  | abort err => exact fun _ _ _ => rfl
  | compute gas next ih =>
      intro used w h
      refine whenRunning_congr fun hrun => ih _ _ ?_
      simpa only [requests, hrun, if_true] using h
  | get key next ih =>
      intro used w h
      exact whenRunning_congr fun hrun => access_congr hrun h fun m hm => ih _ _ _ hm
  | set key value next ih =>
      intro used w h
      unfold exec
      unfold requests at h
      refine whenRunning_congr fun hrun => ?_
      split
      · rfl
      · rename_i hkey
        rw [if_neg hkey] at h
        exact access_congr hrun h fun m hm => ih _ _ hm
  | remove key next ih =>
      intro used w h
      exact whenRunning_congr fun hrun => access_congr hrun h fun m hm => ih _ _ hm
  | scan next ih =>
      intro used w h
      exact whenRunning_congr fun hrun => access_congr hrun h fun m hm => ih _ _ _ hm
  | query request next ih =>
      intro used w h
      unfold exec
      refine whenRunning_congr fun hrun => ?_
      simp only [requests, hrun, if_true, List.forall_mem_cons] at h
      obtain ⟨hhere, hrest⟩ := h
      show (match (env.asking handler).query request (env.queryGas lim used w.gas) w with
        | (.ok answer, w') => (env.asking handler).exec lim (next answer) used w'
        | (.error _, w') => _) = _
      rw [query_congr hhere]
      cases hq : env.query request (env.queryGas lim used w.gas) w with
      | mk r w' =>
          cases r with
          | ok answer =>
              rw [hq] at hrest
              exact ih answer used w' hrest
          | error f => rfl

/-- The requests of a contract that the keeper calls. -/
def callRequests (env : VMEnv ε) (vmMeter : VMMeter) (run : ContractRun ρ)
    (w : World (Multistore ε) Shared) : List (Bytes × QueryWorld ε) :=
  match runtimeGasForContract env.gasRegister w.gas with
  | .ok gasLeft => env.requests ⟨vmMeter, gasLeft, vmMeter.reading env.gasRegister w.gas⟩ run 0 w
  | .error _ => []

theorem call_congr {handler : Bytes → QueryM ε Bytes} {vmMeter : VMMeter} {run : ContractRun ρ}
    {w : World (Multistore ε) Shared}
    (h : ∀ p ∈ env.callRequests vmMeter run w, handler p.1 p.2 = env.handleQuery p.1 p.2) :
    (env.asking handler).call vmMeter run w = env.call vmMeter run w := by
  refine GoM.bind_run_congr rfl fun gasLeft w₁ hleft => ?_
  refine GoM.bind_run_congr rfl fun start w₂ hstart => ?_
  obtain ⟨rfl, rfl⟩ := GoM.gets_ok_iff.mp hstart
  refine GoM.bind_run_congr (exec_congr run 0 w₂ ?_) fun _ _ _ => rfl
  unfold callRequests at h
  simp only [onMeter] at hleft
  cases hgas : runtimeGasForContract env.gasRegister w.gas with
  | error p => simp [hgas, Except.mapError] at hleft
  | ok g =>
      rw [hgas] at h hleft
      cases hleft
      exact h

end VMEnv

/-! ## Smart queries -/

section Smart

variable (k : Keeper ε C)

/-- The requests of the contract that a smart query runs on the context `ctx`, which is one query
deeper already. -/
def Keeper.smartRequests (ctx : SdkContext) (contract : AccAddress) (req : Bytes)
    (w : World (Multistore ε) Shared) : List (Bytes × QueryWorld ε) :=
  match contractInstance k.codec contract w with
  | (.error _, _) => []
  | (.ok (contractInfo, codeInfo), w₁) =>
    match k.prepare ctx contractInfo.codeID codeInfo.codeHash (.query req) (pure contract) w₁ with
    | (.error _, _) => []
    | (.ok contract, w₂) =>
      (k.vmEnv ctx contract).callRequests .multiplied
        (k.wasmVM.query ctx codeInfo.codeHash contract req) w₂

variable {k}

/-- What a smart query returns depends on the requests of its contract. -/
theorem querySmart_congr {handler handler' : QueryHandler ε} {ctx : SdkContext}
    {contract : AccAddress} {req : Bytes} {w : World (Multistore ε) Shared}
    (h : ∀ ctx', checkAndIncreaseQueryStackSize ctx k.maxQueryStackSize = .ok ctx' →
      ∀ p ∈ (k.withQueries handler).smartRequests ctx' contract req w,
        handler' ctx' contract p.1 p.2 = handler ctx' contract p.1 p.2) :
    (k.withQueries handler').querySmart ctx contract req w =
      (k.withQueries handler).querySmart ctx contract req w := by
  refine GoM.bind_run_congr rfl fun ctx' w₁ hcheck => ?_
  obtain ⟨hctx, rfl⟩ := orError_ok_iff.mp hcheck
  have hrequests := h ctx' hctx
  unfold Keeper.smartRequests at hrequests
  refine GoM.bind_run_congr rfl fun found w₂ hfound => ?_
  obtain ⟨contractInfo, codeInfo⟩ := found
  refine GoM.bind_run_congr ?_ fun _ _ _ => rfl
  refine GoM.bind_run_congr rfl fun contract' w₃ hprepare => ?_
  obtain ⟨_, w₄, -, hbetween⟩ := GoM.bind_ok_iff.mp hprepare
  obtain ⟨_, w₅, hpure, hlast⟩ := GoM.bind_ok_iff.mp hbetween
  obtain ⟨_, w₆, -, hret⟩ := GoM.bind_ok_iff.mp hlast
  obtain ⟨rfl, -⟩ := GoM.pure_ok_iff.mp hpure
  obtain ⟨rfl, -⟩ := GoM.pure_ok_iff.mp hret
  have henv : (k.withQueries handler').vmEnv ctx' contract' =
      ((k.withQueries handler).vmEnv ctx' contract').asking (handler' ctx' contract') := rfl
  rw [henv]
  refine GoM.bind_run_congr (VMEnv.call_congr ?_) fun _ _ _ => rfl
  have hfound' : contractInstance (k.withQueries handler).codec contract' w₁ =
      (.ok (contractInfo, codeInfo), w₂) := hfound
  rw [hfound'] at hrequests
  dsimp only at hrequests
  rw [hprepare] at hrequests
  exact hrequests

end Smart

/-- A smart query, with the world it is made in. -/
structure SmartQuery (ε : Type) where
  ctx : SdkContext
  contract : AccAddress
  req : Bytes
  world : QueryWorld ε

section Nested

variable (k : Keeper ε C) (plans : SdkContext → AccAddress → Bytes → QueryPlan ε) (vm : VMState)
  (handler : QueryHandler ε)

/-- `QuerySmart` as a query. -/
def Keeper.smart (ctx : SdkContext) (contract : AccAddress) (req : Bytes) : QueryM ε Bytes :=
  asQuery vm ((k.withQueries handler).querySmart ctx contract req)

/-- The query passes the check of its depth. -/
def SmartQuery.Admitted (q : SmartQuery ε) : Prop :=
  q.ctx.queryStackSize.getD 0 + 1 ≤ k.maxQueryStackSize

/-- The smart queries directly below one: those of the requests of its contract. -/
def SmartQuery.made (q : SmartQuery ε) : List (SmartQuery ε) :=
  match checkAndIncreaseQueryStackSize q.ctx k.maxQueryStackSize with
  | .error _ => []
  | .ok ctx =>
    ((k.withQueries handler).smartRequests ctx q.contract q.req (withVM vm q.world)).flatMap
      fun p => ((plans ctx q.contract p.1).asked (k.smart vm handler ctx) p.2).map
        fun a => ⟨ctx, a.1, a.2.1, a.2.2⟩

/-- What the limit on nested queries achieves, when `handler` handles the queries of contracts. -/
structure BoundedQueries : Prop where
  /-- The handler does what the plugins do, with itself below. -/
  answers : k.answerWith plans vm handler = handler
  /-- Queries end: a query is unrolled in a bounded number of rounds, whatever is below them. -/
  terminates : ∀ beyond n, k.maxQueryStackSize.toNat + 1 < n →
    (k.answerWith plans vm)^[n] beyond = handler
  /-- The answer of a smart query is given by those of the ones directly below. -/
  direct : ∀ (q : SmartQuery ε) (ask : SdkContext → AccAddress → Bytes → QueryM ε Bytes),
    (∀ q' ∈ q.made k plans vm handler, ask q'.ctx q'.contract q'.req q'.world =
      k.smart vm handler q'.ctx q'.contract q'.req q'.world) →
    k.smart vm (fun ctx caller request => (plans ctx caller request).run (ask ctx)) q.ctx q.contract
      q.req q.world = k.smart vm handler q.ctx q.contract q.req q.world
  /-- The number of nested queries on a path is bounded. -/
  nested : ∀ (q : SmartQuery ε) (path : List (SmartQuery ε)), q.ctx.queryStackSize = none →
    List.IsChain (fun q q' => q' ∈ q.made k plans vm handler) (q :: path) →
    (∀ q' ∈ q :: path, q'.Admitted k) → (q :: path).length ≤ k.maxQueryStackSize.toNat
  /-- One that is nested more deeply fails at once. -/
  tooDeep : ∀ (ctx : SdkContext) (contract : AccAddress) (req : Bytes) (w : QueryWorld ε),
    ctx.queryStackSize.getD 0 = k.maxQueryStackSize → k.smart vm handler ctx contract req w =
      (.error (.error (.registered errExceedMaxQueryStackSize)), w)
  /-- Finitely many are made. -/
  finite : ∀ q : SmartQuery ε,
    {q' | Relation.ReflTransGen (fun q q' => q' ∈ q.made k plans vm handler) q q'}.Finite

variable {k plans vm handler}

theorem SmartQuery.of_mem_made {q q' : SmartQuery ε} (h : q' ∈ q.made k plans vm handler) :
    q'.ctx = q.ctx.deeperQuery ∧ q.Admitted k := by
  unfold made at h
  split at h
  · cases h
  · rename_i ctx hcheck
    obtain ⟨p, -, hp⟩ := List.mem_flatMap.mp h
    obtain ⟨a, -, rfl⟩ := List.mem_map.mp hp
    exact checkAndIncreaseQueryStackSize_ok hcheck

/-- **The answer of a smart query is given by those of the ones directly below.** -/
theorem smart_direct (hanswers : k.answerWith plans vm handler = handler) (q : SmartQuery ε)
    (ask : SdkContext → AccAddress → Bytes → QueryM ε Bytes)
    (h : ∀ q' ∈ q.made k plans vm handler, ask q'.ctx q'.contract q'.req q'.world =
      k.smart vm handler q'.ctx q'.contract q'.req q'.world) :
    k.smart vm (fun ctx caller request => (plans ctx caller request).run (ask ctx)) q.ctx q.contract
      q.req q.world = k.smart vm handler q.ctx q.contract q.req q.world := by
  have hsame : (k.withQueries fun ctx caller request =>
      (plans ctx caller request).run (ask ctx)).querySmart q.ctx q.contract q.req
        (withVM vm q.world) =
      (k.withQueries handler).querySmart q.ctx q.contract q.req (withVM vm q.world) := by
    refine querySmart_congr fun ctx hcheck p hp => ?_
    have hplan : handler ctx q.contract p.1 p.2 =
        (plans ctx q.contract p.1).run (k.smart vm handler ctx) p.2 :=
      congrFun (congrFun (congrFun (congrFun hanswers.symm ctx) q.contract) p.1) p.2
    rw [hplan]
    refine QueryPlan.run_congr fun a ha => h ⟨ctx, a.1, a.2.1, a.2.2⟩ ?_
    unfold SmartQuery.made
    rw [hcheck]
    exact List.mem_flatMap.mpr ⟨p, hp, List.mem_map.mpr ⟨a, ha, rfl⟩⟩
  unfold Keeper.smart asQuery
  rw [hsame]

/-- Each query on a path has one query less of room. -/
theorem nested_length (hmax : k.maxQueryStackSize.toNat < 2 ^ 32 - 1) (path : List (SmartQuery ε))
    (q : SmartQuery ε) (hsize : (q.ctx.queryStackSize.getD 0).toNat ≤ k.maxQueryStackSize.toNat)
    (hchain : List.IsChain (fun q q' => q' ∈ q.made k plans vm handler) (q :: path))
    (hadmitted : ∀ q' ∈ q :: path, q'.Admitted k) :
    (q :: path).length + (q.ctx.queryStackSize.getD 0).toNat ≤ k.maxQueryStackSize.toNat := by
  have hle := UInt32.le_iff_toNat_le.mp (hadmitted q (List.mem_cons_self ..))
  rw [toNat_succ_of_lt hmax hsize] at hle
  induction path generalizing q with
  | nil =>
      rw [List.length_singleton]
      omega
  | cons q' rest ih =>
      obtain ⟨hmade, hrest⟩ := List.isChain_cons_cons.mp hchain
      obtain ⟨hctx, -⟩ := SmartQuery.of_mem_made hmade
      have hsize' : (q'.ctx.queryStackSize.getD 0).toNat =
          (q.ctx.queryStackSize.getD 0).toNat + 1 := by
        rw [hctx]
        exact toNat_succ_of_lt hmax hsize
      have hadmitted' : ∀ q'' ∈ q' :: rest, q''.Admitted k :=
        fun q'' h => hadmitted q'' (List.mem_cons_of_mem _ h)
      have hle' := UInt32.le_iff_toNat_le.mp (hadmitted' q' (List.mem_cons_self ..))
      rw [toNat_succ_of_lt hmax (by omega)] at hle'
      have hlength := ih q' (by omega) hrest hadmitted' hle'
      simp only [List.length_cons] at hlength ⊢
      omega

/-- A request is answered with queries that are nested more deeply. -/
theorem answerWith_goesDown (hmax : k.maxQueryStackSize.toNat < 2 ^ 32 - 1) :
    GoesDown (fun ctx : SdkContext => room k.maxQueryStackSize (ctx.queryStackSize.getD 0))
      (k.answerWith plans vm) := by
  intro handler handler' ctx h
  have hsmart : k.smart vm handler ctx = k.smart vm handler' ctx := by
    funext contract req w
    have hsame : (k.withQueries handler).querySmart ctx contract req (withVM vm w) =
        (k.withQueries handler').querySmart ctx contract req (withVM vm w) := by
      refine querySmart_congr fun ctx' hcheck p _ => ?_
      obtain ⟨rfl, hle⟩ := checkAndIncreaseQueryStackSize_ok hcheck
      rw [h ctx.deeperQuery (room_lt hmax hle)]
    unfold Keeper.smart asQuery
    rw [hsame]
  funext caller request
  show (plans ctx caller request).run (k.smart vm handler ctx) =
    (plans ctx caller request).run (k.smart vm handler' ctx)
  rw [hsmart]

/-- **Nested queries are bounded**: there is a handler for the queries of contracts, and it answers
every query in boundedly many rounds. -/
theorem queries_bounded (k : Keeper ε C) (plans : SdkContext → AccAddress → Bytes → QueryPlan ε)
    (vm : VMState) (hmax : k.maxQueryStackSize.toNat < 2 ^ 32 - 1) :
    ∃ handler, BoundedQueries k plans vm handler := by
  have hdown : GoesDown _ (k.answerWith plans vm) := answerWith_goesDown hmax
  have hroom : ∀ ctx : SdkContext, room k.maxQueryStackSize (ctx.queryStackSize.getD 0) ≤
      k.maxQueryStackSize.toNat + 1 := fun ctx => room_le _ _
  have hanswers := hdown.isFixedPt_iterate hroom k.handleQuery (Nat.lt_succ_self _)
  refine ⟨_, hanswers, fun beyond n hn => hdown.iterate_eq_of_le hroom _ _ hn (Nat.lt_succ_self _),
    smart_direct hanswers, ?_, ?_, ?_⟩
  · intro q path hnone hchain hadmitted
    have hzero : (q.ctx.queryStackSize.getD 0).toNat = 0 := by rw [hnone]; rfl
    have hlength := nested_length hmax path q (by omega) hchain hadmitted
    omega
  · intro ctx contract req w hdeep
    have hcheck : checkAndIncreaseQueryStackSize ctx k.maxQueryStackSize =
        .error (.registered errExceedMaxQueryStackSize) := by
      have hlt : k.maxQueryStackSize < k.maxQueryStackSize + 1 := by
        rw [UInt32.lt_iff_toNat_lt, toNat_succ_of_lt hmax (Nat.le_refl _)]
        omega
      simp [checkAndIncreaseQueryStackSize, hdeep, hlt]
    have herror : orError (checkAndIncreaseQueryStackSize ctx k.maxQueryStackSize) (withVM vm w) =
        (.error (.error (.registered errExceedMaxQueryStackSize)), withVM vm w) := by
      rw [hcheck]
      rfl
    have hrun : ∀ handler, (k.withQueries handler).querySmart ctx contract req (withVM vm w) =
        (.error (.error (.registered errExceedMaxQueryStackSize)), withVM vm w) :=
      fun _ => GoM.bind_run_error herror _
    unfold Keeper.smart asQuery
    rw [hrun]
    rfl
  · have hlower : ∀ (handler : QueryHandler ε) (q q' : SmartQuery ε),
        q' ∈ q.made k plans vm handler →
        room k.maxQueryStackSize (q'.ctx.queryStackSize.getD 0) <
          room k.maxQueryStackSize (q.ctx.queryStackSize.getD 0) := by
      intro handler q q' h
      obtain ⟨hctx, hle⟩ := SmartQuery.of_mem_made h
      rw [hctx]
      exact room_lt hmax hle
    exact finite_below (hlower _) fun q => List.finite_toSet _

end Nested

end Wasmd
