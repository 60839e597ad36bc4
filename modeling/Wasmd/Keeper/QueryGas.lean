import Wasmd.Keeper.Queries
import Wasmd.Keeper.VmGas

/-!
# Queries of contracts are read-only and metered

`QueryHandler.Query` runs the plugins on a cached context with a gas meter of its own, and charges
the caller for what that meter shows (`query_plugins.go`).

* `QueryPlan.Orderly` — the plugins charge the meter they are given and do not recover from panics.
* `querySmart_metered` — a smart query that does not panic leaves the meter within its limit,
  whatever its contract asks for.
* `contract_queries_metered` — what a query leaves alone, what it charges, and how much that can be.
-/

namespace Wasmd

open ByteStore Effects Gas

variable {ε C ρ α : Type} {μ ν : Type}

/-! ## Calls that keep to the meter -/

theorem Metered.of_gas {x : CtxM μ ν α} (h : ∀ w, (x w).2.gas = w.gas) : Metered x := by
  intro w r w' hw hx
  have hgas : w'.gas = w.gas := by rw [← h w, hx]
  rw [hgas]
  exact ⟨rfl, fun _ => hw⟩

namespace VMEnv

variable {env : VMEnv ε} {lim : VMLimits}

theorem exec_limit {run : ContractRun ρ} {used : Nat} {w w' : World (Multistore ε) Shared}
    {r : Except (Failure GoError) (VMOutcome ρ)} (h : env.exec lim run used w = (r, w')) :
    (∃ out, r = .ok out) ∧ w'.gas.limit = w.gas.limit := by
  have hend : Ends env lim (fun w₁ => w₁.gas.limit = w.gas.limit) (fun w₁ => Charged w.gas w₁.gas)
      (env.exec lim run used w) :=
    exec_rule (gas_rule w.gas) run used w ⟨rfl, UInt64.le_refl _, id⟩
  rw [h] at hend
  obtain ⟨out, hout, hlimit, -⟩ := hend
  exact ⟨⟨out, hout⟩, hlimit⟩

end VMEnv

theorem consumeRuntimeGas_limit (g : WasmGasRegister) (m : GasMeter) (gas : UInt64) :
    (consumeRuntimeGas g m gas).2.limit = m.limit ∧
      ((consumeRuntimeGas g m gas).1 = .ok () → (consumeRuntimeGas g m gas).2.Within) := by
  have hlimit := GasMeter.consumeGas_limit m (g.fromWasmVMGas gas) "wasm contract"
  unfold consumeRuntimeGas
  cases hc : m.consumeGas (g.fromWasmVMGas gas) "wasm contract" with
  | mk r m' =>
      rw [hc] at hlimit
      cases r with
      | error p => exact ⟨hlimit, fun h => by cases h⟩
      | ok u =>
          dsimp only
          split
          · exact ⟨hlimit, fun h => by cases h⟩
          · exact ⟨hlimit, fun _ => (GasMeter.consumeGas_ok_iff.mp hc).2.2⟩

/-- Whoever returns normally leaves the meter within its limit, even if it was not before. -/
def Settles (x : CtxM μ ν α) : Prop :=
  ∀ w r w', x w = (r, w') → w'.gas.limit = w.gas.limit ∧ (¬ Panicked r → w'.gas.Within)

theorem settles_consumeRuntimeGas (g : WasmGasRegister) (gas : UInt64) :
    Settles (onMeter fun m => consumeRuntimeGas g m gas : KeeperM ε Unit) := by
  intro w r w' h
  obtain ⟨hlimit, hwithin⟩ := consumeRuntimeGas_limit g w.gas gas
  cases h
  refine ⟨hlimit, fun hno => hwithin ?_⟩
  cases hr : (consumeRuntimeGas g w.gas gas).1 with
  | ok u => rfl
  | error p => exact absurd ⟨p, by rw [hr]; rfl⟩ hno

theorem Settles.bind_pure {x : CtxM μ ν α} (h : Settles x) {β : Type} (f : α → β) :
    Settles (x >>= fun a => pure (f a)) := by
  intro w r w' hrun
  cases hx : x w with
  | mk res w₁ =>
      obtain ⟨hlimit, hwithin⟩ := h w res w₁ hx
      cases res with
      | ok a =>
          rw [GoM.bind_run_ok hx] at hrun
          cases hrun
          exact ⟨hlimit, fun _ => hwithin (not_panicked_ok a)⟩
      | error e =>
          rw [GoM.bind_run_error hx] at hrun
          cases hrun
          refine ⟨hlimit, fun hno => hwithin ?_⟩
          rintro ⟨p, hp⟩
          cases hp
          exact hno ⟨p, rfl⟩

/-- **A run of a contract keeps to the meter.**  The VM catches the panic of a charge, but the
charge for its own gas then panics again. -/
theorem VMEnv.call_metered (env : VMEnv ε) (vmMeter : VMMeter) (run : ContractRun ρ) :
    Metered (env.call vmMeter run) := by
  refine Metered.bind (Metered.of_gas fun w => rfl) fun gasLeft => ?_
  refine Metered.bind (Metered.of_gas fun w => rfl) fun start => ?_
  intro w r w' hw h
  cases hexec : env.exec ⟨vmMeter, gasLeft, start⟩ run 0 w with
  | mk res w₁ =>
      obtain ⟨⟨out, rfl⟩, hlimit⟩ := exec_limit hexec
      rw [GoM.bind_run_ok hexec] at h
      obtain ⟨hcharged, hwithin⟩ :=
        (settles_consumeRuntimeGas env.gasRegister _).bind_pure (fun _ => out.result) w₁ r w' h
      exact ⟨hcharged.trans hlimit, hwithin⟩

/-! ## Smart queries -/

section Smart

variable (k : Keeper ε C)

theorem loadModule_metered (name : String) (codeID : UInt64) (checksum : Bytes) (msgLen : Int) :
    Metered (k.loadModule name codeID checksum msgLen) := by
  refine Metered.bind (Metered.of_gas fun w => rfl) fun isPinned => ?_
  refine Metered.bind (Metered.of_gas fun w => rfl) fun discount => ?_
  exact Metered.bind (Metered.ofExcept _) fun cost => metered_consumeGas cost _

theorem contractInstance_metered (codec : AddressCodec) (contract : AccAddress) :
    Metered (contractInstance codec contract : KeeperM ε _) := by
  refine Metered.bind (Metered.of_gas fun w => rfl) fun info => ?_
  refine Metered.bind (Metered.of_gas fun w => by cases info <;> rfl) fun info' => ?_
  refine Metered.bind (Metered.of_gas fun w => rfl) fun code => ?_
  exact Metered.bind (Metered.of_gas fun w => by cases code <;> rfl) fun code' => Metered.pure _

/-- **A smart query keeps to the meter**, whatever answers the queries of its contract. -/
theorem querySmart_metered (ctx : SdkContext) (contract : AccAddress) (req : Bytes) :
    Metered (k.querySmart ctx contract req) := by
  refine Metered.bind (Metered.ofExcept _) fun ctx' => ?_
  refine Metered.bind (contractInstance_metered _ _) fun found => ?_
  refine Metered.bind ?_ fun out => ?_
  · refine Metered.bind ?_ fun contract' => ?_
    · refine Metered.bind (loadModule_metered k _ _ _ _) fun _ => ?_
      refine Metered.bind (Metered.pure _) fun _ => ?_
      exact Metered.bind (Metered.ofExcept _) fun _ => Metered.pure _
    · exact Metered.bind (VMEnv.call_metered _ _ _) fun _ => Metered.pure _
  · obtain ⟨_, out⟩ := out
    match out with
    | .error stop => exact Metered.failWith _
    | .ok (.error err) =>
        dsimp only
        split
        · exact Metered.pure _
        · exact Metered.failWith _
    | .ok (.ok bz) => exact Metered.pure _

theorem Metered.asQuery {vm : VMState} {x : KeeperM ε Bytes} (h : Metered x) :
    Metered (Wasmd.asQuery vm x) := by
  intro w r w' hw hx
  cases hx
  exact h (withVM vm w) _ _ hw rfl

end Smart

/-! ## Plugins -/

namespace QueryPlan

/-- The plugins charge the meter they are given, and what panics in them panics in the query. -/
def Orderly : QueryPlan ε → Prop
  | done _ => True
  | step x next => Metered x ∧ (∀ p, next (.error (.panic p)) = done (.error (.panic p))) ∧
      ∀ r, (next r).Orderly
  | smart _ _ next => (∀ p, next (.error (.panic p)) = done (.error (.panic p))) ∧
      ∀ r, (next r).Orderly

/-- The rest of a plan after a call that keeps to the meter. -/
theorem metered_rest {ask : AccAddress → Bytes → QueryM ε Bytes} {β : Type} {x : QueryM ε β}
    {next : Except (Failure GoError) β → QueryPlan ε} (hx : Metered x)
    (hpanic : ∀ p, next (.error (.panic p)) = done (.error (.panic p)))
    (hnext : ∀ r, Metered ((next r).run ask)) :
    Metered (fun w => (next (x w).1).run ask (x w).2) := by
  intro w r w' hw h
  obtain ⟨hlimit, hwithin⟩ := hx w (x w).1 (x w).2 hw rfl
  by_cases hp : Panicked (x w).1
  · obtain ⟨p, hres⟩ := hp
    dsimp only at h
    rw [hres, hpanic] at h
    cases h
    exact ⟨hlimit, fun hno => absurd ⟨p, rfl⟩ hno⟩
  · obtain ⟨hlimit', hwithin'⟩ := hnext (x w).1 (x w).2 r w' (hwithin hp) h
    exact ⟨hlimit'.trans hlimit, hwithin'⟩

theorem run_metered {ask : AccAddress → Bytes → QueryM ε Bytes}
    (hask : ∀ contract req, Metered (ask contract req)) {plan : QueryPlan ε} (h : plan.Orderly) :
    Metered (plan.run ask) := by
  induction plan with
  | done res => exact Metered.ofExcept res
  | step x next ih => exact metered_rest h.1 h.2.1 fun r => ih r (h.2.2 r)
  | smart contract req next ih => exact metered_rest (hask contract req) h.1 fun r => ih r (h.2 r)

end QueryPlan

theorem answerWith_metered (k : Keeper ε C) {plans : SdkContext → AccAddress → Bytes → QueryPlan ε}
    (vm : VMState) (handler : QueryHandler ε) {ctx : SdkContext} {caller : AccAddress}
    {request : Bytes} (hplan : (plans ctx caller request).Orderly) :
    Metered (k.answerWith plans vm handler ctx caller request) :=
  QueryPlan.run_metered (fun _ _ => (querySmart_metered _ _ _ _).asQuery) hplan

/-! ## The query -/

namespace VMEnv

variable (env : VMEnv ε) (request : Bytes) (gasLimit : UInt64) (w : World (Multistore ε) Shared)

/-- The gas that a query consumed in its own meter. -/
def consumedByQuery : UInt64 :=
  (env.handleQuery request (env.queryWorld gasLimit w)).2.gas.gasConsumed

/-- `QueryHandler.GasConsumed`. -/
def gasConsumed : Except Panic UInt64 := env.gasRegister.toWasmVMGas w.gas.gasConsumed

/-- What a query does to the caller: nothing but the charge, and the contracts of the transaction
that were called in it. -/
theorem query_snd : (env.query request gasLimit w).2 =
    { w with
      gas := (w.gas.consumeGas (env.consumedByQuery request gasLimit w) "contract sub-query").2
      shared := { w.shared with
        txContracts := (env.handleQuery request (env.queryWorld gasLimit w)).2.shared } } := by
  unfold query consumedByQuery queryWorld
  dsimp only
  split
  · rename_i hc
    rw [hc]
  · rename_i hc
    rw [hc]

/-- **What a query leaves alone and what it charges.**  A charge that does not fit in 64 bits
panics: it leaves a meter with a limit at the largest number, and one without at zero. -/
structure ChargesCaller : Prop where
  store : (env.query request gasLimit w).2.ms = w.ms
  events : (env.query request gasLimit w).2.events = w.events
  exact : w.gas.gasConsumed.toNat + (env.consumedByQuery request gasLimit w).toNat < 2 ^ 64 →
    (env.query request gasLimit w).2.gas.gasConsumed.toNat =
      w.gas.gasConsumed.toNat + (env.consumedByQuery request gasLimit w).toNat
  panics : 2 ^ 64 ≤ w.gas.gasConsumed.toNat + (env.consumedByQuery request gasLimit w).toNat →
    (env.query request gasLimit w).1 = .error (.panic (.gasOverflow "contract sub-query"))
  overflow_basic : ∀ limit consumed, w.gas = .basic limit consumed →
    2 ^ 64 ≤ consumed.toNat + (env.consumedByQuery request gasLimit w).toNat →
    (env.query request gasLimit w).2.gas = .basic limit maxUint64
  overflow_infinite : ∀ consumed, w.gas = .infinite consumed →
    2 ^ 64 ≤ consumed.toNat + (env.consumedByQuery request gasLimit w).toNat →
    (env.query request gasLimit w).2.gas = .infinite 0

/-- **How much a query can cost**: at most its limit, in the units of the SDK and in those of the
VM. -/
structure WithinLimit : Prop where
  consumed : (env.consumedByQuery request gasLimit w).toNat ≤
    gasLimit.toNat / env.gasRegister.c.gasMultiplier.toNat
  reported : w.gas.gasConsumed.toNat * env.gasRegister.c.gasMultiplier.toNat < 2 ^ 64 →
    (env.query request gasLimit w).2.gas.gasConsumed.toNat *
      env.gasRegister.c.gasMultiplier.toNat < 2 ^ 64 →
    ∃ before after, env.gasConsumed w = .ok before ∧
      env.gasConsumed (env.query request gasLimit w).2 = .ok after ∧
      after.toNat ≤ before.toNat + gasLimit.toNat

variable {env request gasLimit w}

/-- A charge that does not fit. -/
theorem query_of_overflow
    (h : 2 ^ 64 ≤ w.gas.gasConsumed.toNat + (env.consumedByQuery request gasLimit w).toNat) :
    (env.query request gasLimit w).1 = .error (.panic (.gasOverflow "contract sub-query")) ∧
      (env.query request gasLimit w).2.gas = w.gas.overflowed := by
  have hcharge := GasMeter.consumeGas_of_overflow "contract sub-query" h
  refine ⟨?_, ?_⟩
  · unfold consumedByQuery queryWorld at hcharge
    unfold query
    dsimp only
    rw [hcharge]
  · rw [query_snd]
    dsimp only
    rw [hcharge]

theorem chargesCaller : env.ChargesCaller request gasLimit w where
  store := by rw [query_snd]
  events := by rw [query_snd]
  exact hfit := by
    rw [query_snd]
    exact GasMeter.toNat_gasConsumed_consumeGas hfit
  panics hbig := (query_of_overflow hbig).1
  overflow_basic limit consumed hgas hbig := by
    rw [(query_of_overflow (by rw [hgas]; exact hbig)).2, hgas]
    rfl
  overflow_infinite consumed hgas hbig := by
    rw [(query_of_overflow (by rw [hgas]; exact hbig)).2, hgas]
    rfl

/-- The caller's meter grows by no more than the query consumed. -/
theorem gasConsumed_query_le : (env.query request gasLimit w).2.gas.gasConsumed.toNat ≤
    w.gas.gasConsumed.toNat + (env.consumedByQuery request gasLimit w).toNat := by
  have hcharges : env.ChargesCaller request gasLimit w := chargesCaller
  by_cases hfit : w.gas.gasConsumed.toNat + (env.consumedByQuery request gasLimit w).toNat < 2 ^ 64
  · exact (hcharges.exact hfit).le
  · rw [not_lt] at hfit
    cases hgas : w.gas with
    | basic limit consumed =>
        rw [hgas] at hfit
        rw [hcharges.overflow_basic limit consumed hgas hfit]
        refine le_trans ?_ hfit
        exact (GasMeter.basic limit maxUint64).gasConsumed.toNat_lt.le
    | infinite consumed =>
        rw [hgas] at hfit
        rw [hcharges.overflow_infinite consumed hgas hfit]
        exact Nat.zero_le _

theorem withinLimit (hmetered : Metered (env.handleQuery request))
    (hno : ¬ Panicked (env.handleQuery request (env.queryWorld gasLimit w)).1) :
    env.WithinLimit request gasLimit w := by
  obtain ⟨hlimit, hwithin⟩ := hmetered (env.queryWorld gasLimit w) _ _
    (GasMeter.within_newGasMeter _) rfl
  have hconsumed : (env.consumedByQuery request gasLimit w).toNat ≤
      gasLimit.toNat / env.gasRegister.c.gasMultiplier.toNat := by
    have hle := UInt64.le_iff_toNat_le.mp (hwithin hno)
    rw [hlimit] at hle
    exact hle.trans (UInt64.toNat_div _ _).le
  refine ⟨hconsumed, fun hfit hfit' => ?_⟩
  have hle : (env.query request gasLimit w).2.gas.gasConsumed.toNat ≤ _ := gasConsumed_query_le
  obtain ⟨before, hb, hbval⟩ := env.gasRegister.toWasmVMGas_of_fits hfit
  obtain ⟨after, ha, haval⟩ := env.gasRegister.toWasmVMGas_of_fits hfit'
  refine ⟨before, after, hb, ha, ?_⟩
  rw [hbval, haval]
  calc _ ≤ (w.gas.gasConsumed.toNat + (env.consumedByQuery request gasLimit w).toNat) *
        env.gasRegister.c.gasMultiplier.toNat := Nat.mul_le_mul_right _ hle
    _ = w.gas.gasConsumed.toNat * env.gasRegister.c.gasMultiplier.toNat +
        (env.consumedByQuery request gasLimit w).toNat * env.gasRegister.c.gasMultiplier.toNat :=
      Nat.add_mul _ _ _
    _ ≤ _ := Nat.add_le_add_left ((Nat.mul_le_mul_right _ hconsumed).trans
      (Nat.div_mul_le_self _ _)) _

end VMEnv

/-- **Queries of contracts are read-only and metered.**  Whatever the plugins do, and whoever
answers the queries of the contracts they run. -/
theorem contract_queries_metered (k : Keeper ε C)
    (plans : SdkContext → AccAddress → Bytes → QueryPlan ε) (vm : VMState)
    (handler : QueryHandler ε) (ctx : SdkContext) (caller : AccAddress) (request : Bytes)
    (gasLimit : UInt64) (w : World (Multistore ε) Shared) :
    ((k.withQueries (k.answerWith plans vm handler)).vmEnv ctx caller).ChargesCaller
        request gasLimit w ∧
      ((plans ctx caller request).Orderly →
        ¬ Panicked (k.answerWith plans vm handler ctx caller request
          (((k.withQueries (k.answerWith plans vm handler)).vmEnv ctx caller).queryWorld
            gasLimit w)).1 →
        ((k.withQueries (k.answerWith plans vm handler)).vmEnv ctx caller).WithinLimit
          request gasLimit w) :=
  ⟨VMEnv.chargesCaller, fun hplan hno =>
    VMEnv.withinLimit (answerWith_metered k vm handler hplan) hno⟩

/-- A plugin that charges some gas, asks the caller and returns its answer. -/
def chargingPlan (amount : UInt64) (caller : AccAddress) : QueryPlan Unit :=
  .step (consumeGas amount "plugin") fun
    | .ok _ => .smart caller [] .done
    | .error e => .done (.error e)

theorem chargingPlan_orderly (amount : UInt64) (caller : AccAddress) :
    (chargingPlan amount caller).Orderly := by
  refine ⟨metered_consumeGas amount "plugin", fun p => rfl, fun r => ?_⟩
  cases r with
  | ok u => exact ⟨fun p => rfl, fun _ => trivial⟩
  | error e => trivial

def queryingContract : AccAddress := .single 1

/-- The context of its call. -/
def queryingCtx : SdkContext := ⟨10, 1, some 3, false, none, none, none, none⟩

/-- The environment of a contract whose queries are answered by a plugin. -/
def pluginEnv (plan : AccAddress → QueryPlan Unit) : VMEnv Unit :=
  ((plainKeeper Unit).withQueries ((plainKeeper Unit).answerWith (fun _ caller _ => plan caller)
    ⟨∅, []⟩ (plainKeeper Unit).handleQuery)).vmEnv queryingCtx queryingContract

/-- The caller is charged five gas for a query with a limit of ten. -/
theorem contract_queries_metered_five :
    (pluginEnv (chargingPlan 5)).ChargesCaller [] 1400000 (meterWorld (.basic 100 20)) ∧
      (pluginEnv (chargingPlan 5)).WithinLimit [] 1400000 (meterWorld (.basic 100 20)) := by
  obtain ⟨hcharges, hwithin⟩ := contract_queries_metered (plainKeeper Unit)
    (fun _ caller _ => chargingPlan 5 caller) ⟨∅, []⟩ (plainKeeper Unit).handleQuery
    queryingCtx queryingContract [] 1400000 (meterWorld (.basic 100 20))
  refine ⟨hcharges, hwithin (chargingPlan_orderly 5 queryingContract) ?_⟩
  have hfails : ((pluginEnv (chargingPlan 5)).handleQuery []
      ((pluginEnv (chargingPlan 5)).queryWorld 1400000 (meterWorld (.basic 100 20)))).1 =
      .error (.error (errNoSuchContractFn ((plainKeeper Unit).codec.string queryingContract))) := by
    decide +kernel
  exact hfails ▸ not_panicked_error _

/-- A plugin that charges some gas and answers in any case, also after the charge panicked. -/
def recoveringPlan (amount : UInt64) (_ : AccAddress) : QueryPlan Unit :=
  .step (consumeGas amount "plugin") fun _ => .done (.ok [])

/-- **A full meter, and a plugin that recovers.**  The first query consumes one gas, but the meter
of the caller is at the largest number and does not grow.  The second one, with a limit of one gas,
consumes five and answers. -/
theorem full_meter_not_charged_recovery_over_limit :
    ((pluginEnv (chargingPlan 1)).consumedByQuery [] 140000
          (meterWorld (.basic maxUint64 maxUint64)) = 1 ∧
      ((pluginEnv (chargingPlan 1)).query [] 140000
          (meterWorld (.basic maxUint64 maxUint64))).2.gas = .basic maxUint64 maxUint64) ∧
    ((pluginEnv (recoveringPlan 5)).query [] 140000 (meterWorld (.basic 100 20))).1.toOption =
        some (.ok []) ∧
      (pluginEnv (recoveringPlan 5)).consumedByQuery [] 140000 (meterWorld (.basic 100 20)) = 5 ∧
      (140000 : UInt64).toNat /
        (pluginEnv (recoveringPlan 5)).gasRegister.c.gasMultiplier.toNat = 1 := by
  decide +kernel

end Wasmd
