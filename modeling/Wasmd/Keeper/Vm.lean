import Wasmd.Keeper.DispatchGas
import Wasmd.Keeper.Gas
import Wasmd.Keeper.State
import Wasmd.Lib.PrefixStore

/-!
# Running contracts in the VM

The VM is given a gas limit and a gas meter, both in its own unit if all goes well.  It stops a
contract as soon as its internal gas and what the reading of the meter has grown by together reach
the limit.

* `VMEnv.exec` — a contract run, action by action.
* `VMEnv.call` — what the keeper does around it: it works out the limit, runs the contract and
  charges the gas used.
* `EntryPoint.vmMeter` — which meter an entry point passes: the one that reads in the unit of the
  VM, or the meter of the context itself.
* `VMEnv.exec_rule` — what carries a property through a run; `VMEnv.exec_sameBut` — a run touches
  the storage of its contract, the gas meter and the contracts of the transaction only.
-/

namespace Wasmd

open ByteStore Effects Gas

variable {ε C α ρ : Type}

/-- A computation on the gas meter that may panic. -/
def onMeter (f : GasMeter → Except Panic α × GasMeter) : KeeperM ε α := fun w =>
  ((f w.gas).1.mapError .panic, { w with gas := (f w.gas).2 })

/-! ## Entry points -/

/-- The entry point an input is for. -/
def VMInput.entryPoint : VMInput → EntryPoint
  | .instantiate .. => .instantiate
  | .execute .. => .execute
  | .migrate .. => .migrate
  | .sudo _ => .sudo
  | .reply _ => .reply
  | .ibcChannelConnect _ => .ibcChannelConnect
  | .ibcChannelClose _ => .ibcChannelClose
  | .ibcPacketReceive _ => .ibcPacketReceive
  | .ibcPacketAck _ => .ibcPacketAck
  | .ibcPacketTimeout _ => .ibcPacketTimeout
  | .ibcSourceCallback _ => .ibcSourceCallback
  | .ibcDestinationCallback _ => .ibcDestinationCallback
  | .ibc2PacketAck _ => .ibc2PacketAck
  | .ibc2PacketReceive _ => .ibc2PacketReceive
  | .ibc2PacketTimeout _ => .ibc2PacketTimeout
  | .ibc2PacketSend _ => .ibc2PacketSend

/-- The gas meter passed to the VM. -/
inductive VMMeter where
  /-- `k.gasMeter(ctx)`. -/
  | multiplied
  /-- `ctx.GasMeter()`. -/
  | raw
  deriving DecidableEq, Repr

/-- `GasConsumed()` of the meter passed to the VM. -/
def VMMeter.reading (g : WasmGasRegister) : VMMeter → GasMeter → Except Panic UInt64
  | multiplied, m => multipliedGasConsumed g m
  | raw, m => .ok m.gasConsumed

/-- The meter each entry point passes: `keeper.go` converts, `relay.go` and `ibc2.go` do not. -/
def EntryPoint.vmMeter : EntryPoint → VMMeter
  | .instantiate | .execute | .migrate | .sudo | .reply | .query => .multiplied
  | .ibcChannelOpen | .ibcChannelConnect | .ibcChannelClose | .ibcPacketReceive | .ibcPacketAck
  | .ibcPacketTimeout | .ibcSourceCallback | .ibcDestinationCallback => .raw
  | .ibc2PacketAck | .ibc2PacketReceive | .ibc2PacketTimeout | .ibc2PacketSend => .raw

/-- The callbacks of IBC v2. -/
def EntryPoint.isIBC2 : EntryPoint → Bool
  | .ibc2PacketAck | .ibc2PacketReceive | .ibc2PacketTimeout | .ibc2PacketSend => true
  | _ => false

/-! ## Queries of a contract -/

/-- `errors.As` for an error that has a form of its own in the VM. -/
def GoError.wasmVMError? : GoError → Option String
  | flavoured _ t => some t
  | wrapped _ cause => cause.wasmVMError?
  | deterministic cause => cause.wasmVMError?
  | _ => none

/-- The error `QueryHandler.Query` returns. -/
def queryError (e : GoError) : String :=
  match e.wasmVMError? with
  | some t => t
  | none => redactError e

/-- What a contract runs with: the components its actions go to. -/
structure VMEnv (ε : Type) where
  gasRegister : WasmGasRegister
  storageGas : StorageAccess → UInt64
  storagePanic : String
  handleQuery : Bytes → CtxM (Multistore ε) (Option (List Bytes)) Bytes
  contract : AccAddress

/-- `QueryHandler.Query`: the query runs on a cached context with a meter of its own, which is
charged to the caller also when it panicked. -/
def VMEnv.query (env : VMEnv ε) (request : Bytes) (gasLimit : UInt64) :
    KeeperM ε (Except String Bytes) := fun w =>
  match env.handleQuery request
    ⟨w.ms, .newGasMeter (env.gasRegister.fromWasmVMGas gasLimit), [], w.shared.txContracts⟩ with
  | (res, sub) =>
    match w.gas.consumeGas sub.gas.gasConsumed "contract sub-query" with
    | (.error p, parent) =>
      (.error (.panic p),
        { w with gas := parent, shared := { w.shared with txContracts := sub.shared } })
    | (.ok (), parent) =>
      (match res with
        | .ok bz => .ok (.ok bz)
        | .error (.error e) => .ok (.error (queryError e))
        | .error (.panic p) => .error (.panic p),
        { w with gas := parent, shared := { w.shared with txContracts := sub.shared } })

/-! ## The run -/

/-- Why a contract did not return. -/
inductive VMStop where
  | aborted (err : String)
  | outOfGas
  deriving DecidableEq, Repr

/-- `Error()` of what the VM returns. -/
def VMStop.text : VMStop → String
  | aborted err => err
  | outOfGas => "Out of gas"

/-- The end of a run: the result, and the internal gas used. -/
structure VMOutcome (ρ : Type) where
  result : Except VMStop ρ
  used : Nat

/-- The limits of a run. -/
structure VMLimits where
  vmMeter : VMMeter
  gasLimit : UInt64
  /-- The reading of the meter at the start. -/
  start : Except Panic UInt64

namespace VMEnv

variable (env : VMEnv ε) (lim : VMLimits)

/-- The internal gas and the growth of the reading; `none` if the meter cannot be read. -/
def spent (used : Nat) (m : GasMeter) : Option Nat :=
  match lim.start, lim.vmMeter.reading env.gasRegister m with
  | .ok start, .ok now => some (used + (now.toNat - start.toNat))
  | _, _ => none

/-- The limit has not been reached. -/
def running (used : Nat) (m : GasMeter) : Bool :=
  match env.spent lim used m with
  | some total => total < lim.gasLimit.toNat
  | none => false

/-- Go on if the limit has not been reached. -/
def whenRunning (used : Nat) (next : KeeperM ε (VMOutcome ρ)) : KeeperM ε (VMOutcome ρ) := fun w =>
  if env.running lim used w.gas then next w else (.ok ⟨.error .outOfGas, used⟩, w)

/-- Charge for an access and go on; the VM catches the panic of a charge and stops. -/
def access (a : StorageAccess) (used : Nat) (next : KeeperM ε (VMOutcome ρ)) :
    KeeperM ε (VMOutcome ρ) := fun w =>
  match w.gas.consumeGas (env.storageGas a) "contract storage" with
  | (.ok (), m) => next { w with gas := m }
  | (.error _, m) => (.ok ⟨.error .outOfGas, used⟩, { w with gas := m })

/-- The gas a query is given: what is left. -/
def queryGas (used : Nat) (m : GasMeter) : UInt64 :=
  lim.gasLimit - UInt64.ofNat ((env.spent lim used m).getD 0)

/-- A change of the storage of the contract. -/
def writeState (f : KVStore Bytes → KVStore Bytes) : KeeperM ε Unit :=
  writeStore fun s => { s with contractState := f s.contractState }

/-- The key of the store a key of the contract stands for. -/
def stateKey (key : Bytes) : Bytes := contractStorePrefix env.contract ++ key

/-- The run of a contract after `used` internal gas. -/
def exec : ContractRun ρ → Nat → KeeperM ε (VMOutcome ρ)
  | .ret res, used => env.whenRunning lim used (pure ⟨.ok res, used⟩)
  | .abort err, used => env.whenRunning lim used (pure ⟨.error (.aborted err), used⟩)
  | .compute gas next, used => env.whenRunning lim used (exec next (used + gas.toNat))
  | .get key next, used => env.whenRunning lim used do
    let value ← readStore fun s => s.contractState[env.stateKey key]?
    env.access (.get key value) used (exec (next value) used)
  | .set key value next, used => env.whenRunning lim used <|
    -- the prefix store panics on the empty key, and the VM ends the contract
    if key = [] then pure ⟨.error (.aborted env.storagePanic), used⟩ else
    env.access (.set key value) used do
      writeState (·.insert (env.stateKey key) value)
      exec next used
  | .remove key next, used => env.whenRunning lim used <|
    env.access (.remove key) used do
      writeState (·.erase (env.stateKey key))
      exec next used
  | .scan next, used => env.whenRunning lim used do
    let found ← readStore fun s =>
      KVStore.entries s.contractState (contractStorePrefix env.contract)
    env.access (.scan found) used (exec (next found) used)
  | .query request next, used => env.whenRunning lim used fun w =>
    match env.query request (env.queryGas lim used w.gas) w with
    | (.ok answer, w') => exec (next answer) used w'
    | (.error _, w') => (.ok ⟨.error .outOfGas, used⟩, w')

/-- The gas limit for the contract, the run, and the charge for the internal gas it used. -/
def call (vmMeter : VMMeter) (run : ContractRun ρ) : KeeperM ε (Except VMStop ρ) := do
  let gasLeft ← onMeter fun m => (runtimeGasForContract env.gasRegister m, m)
  let start ← GoM.gets fun w => vmMeter.reading env.gasRegister w.gas
  let out ← env.exec ⟨vmMeter, gasLeft, start⟩ run 0
  onMeter fun m => consumeRuntimeGas env.gasRegister m (UInt64.ofNat (min out.used gasLeft.toNat))
  return out.result

/-! ## The rule for runs -/

/-- The world with the storage of the contracts replaced. -/
def setState (w : World (Multistore ε) Shared) (cs : KVStore Bytes) : World (Multistore ε) Shared :=
  { w with ms := { w.ms with wasm := { w.ms.wasm with contractState := cs } } }

/-- The world with the contracts of the transaction replaced. -/
def setTx (w : World (Multistore ε) Shared) (t : Option (List Bytes)) :
    World (Multistore ε) Shared :=
  { w with shared := { w.shared with txContracts := t } }

/-- What carries a property through a run: `Q` as long as the contract goes on, and `P` when it is
stopped. -/
structure RunRule (env : VMEnv ε) (P Q : World (Multistore ε) Shared → Prop) : Prop where
  weaken : ∀ w, Q w → P w
  charge : ∀ w amount d m, Q w → w.gas.consumeGas amount d = (.ok (), m) → Q { w with gas := m }
  exhaust : ∀ w amount d p m, Q w → w.gas.consumeGas amount d = (.error p, m) →
    P { w with gas := m }
  write : ∀ w (write : KVStore.Write Bytes), write.Valid → Q w →
    Q (setState w (write.through (contractStorePrefix env.contract) w.ms.wasm.contractState))
  remember : ∀ w t, Q w → Q (setTx w t)
  rememberStopped : ∀ w t, P w → P (setTx w t)

variable {env : VMEnv ε} {lim : VMLimits} {P Q : World (Multistore ε) Shared → Prop}

/-- The end of a run as the rule describes it. -/
def Ends (env : VMEnv ε) (lim : VMLimits) (P Q : World (Multistore ε) Shared → Prop)
    (x : Except (Failure GoError) (VMOutcome ρ) × World (Multistore ε) Shared) : Prop :=
  ∃ out, x.1 = .ok out ∧ P x.2 ∧
    (out.result ≠ .error .outOfGas → Q x.2 ∧ env.running lim out.used x.2.gas = true)

theorem ends_stopped {w : World (Multistore ε) Shared} (used : Nat) (h : P w) :
    Ends env lim P Q (.ok (⟨.error .outOfGas, used⟩ : VMOutcome ρ), w) :=
  ⟨_, rfl, h, fun hne => absurd rfl hne⟩

theorem ends_whenRunning {used : Nat} {next : KeeperM ε (VMOutcome ρ)}
    {w : World (Multistore ε) Shared} (hP : P w)
    (hnext : env.running lim used w.gas = true → Ends env lim P Q (next w)) :
    Ends env lim P Q (env.whenRunning lim used next w) := by
  unfold whenRunning
  split
  · rename_i hrun
    exact hnext hrun
  · exact ends_stopped used hP

theorem ends_access (rule : RunRule env P Q) {a : StorageAccess} {used : Nat}
    {next : KeeperM ε (VMOutcome ρ)} {w : World (Multistore ε) Shared} (hQ : Q w)
    (hnext : ∀ m, Q { w with gas := m } → Ends env lim P Q (next { w with gas := m })) :
    Ends env lim P Q (env.access a used next w) := by
  unfold access
  split
  · rename_i m hc
    exact hnext m (rule.charge w _ _ m hQ hc)
  · rename_i p m hc
    exact ends_stopped used (rule.exhaust w _ _ p m hQ hc)

/-- A query that is answered keeps `Q`; one that panics keeps `P`. -/
theorem query_rule (rule : RunRule env P Q) {request : Bytes} {gas : UInt64}
    {w w' : World (Multistore ε) Shared} {r : Except (Failure GoError) (Except String Bytes)}
    (hQ : Q w) (h : env.query request gas w = (r, w')) :
    P w' ∧ ∀ answer, r = .ok answer → Q w' := by
  unfold query at h
  split at h
  rename_i res sub _
  split at h
  · rename_i p m hc
    cases h
    have hP := rule.rememberStopped _ sub.shared (rule.exhaust w _ _ p m hQ hc)
    exact ⟨hP, fun _ he => by cases he⟩
  · rename_i m hc
    cases h
    have hQ' := rule.remember _ sub.shared (rule.charge w _ _ m hQ hc)
    exact ⟨rule.weaken _ hQ', fun _ _ => hQ'⟩

/-- **The rule for runs**, by induction on what the contract does. -/
theorem exec_rule (rule : RunRule env P Q) (run : ContractRun ρ) :
    ∀ used w, Q w → Ends env lim P Q (env.exec lim run used w) := by
  induction run with
  | ret res =>
      intro used w hQ
      exact ends_whenRunning (rule.weaken w hQ) fun hrun =>
        ⟨_, rfl, rule.weaken w hQ, fun _ => ⟨hQ, hrun⟩⟩
  | abort err =>
      intro used w hQ
      exact ends_whenRunning (rule.weaken w hQ) fun hrun =>
        ⟨_, rfl, rule.weaken w hQ, fun _ => ⟨hQ, hrun⟩⟩
  | compute gas next ih =>
      intro used w hQ
      exact ends_whenRunning (rule.weaken w hQ) fun _ => ih _ w hQ
  | get key next ih =>
      intro used w hQ
      exact ends_whenRunning (rule.weaken w hQ) fun _ =>
        ends_access rule hQ fun m hm => ih _ used _ hm
  | set key value next ih =>
      intro used w hQ
      unfold exec
      refine ends_whenRunning (rule.weaken w hQ) fun hrun => ?_
      split
      · exact ⟨_, rfl, rule.weaken w hQ, fun _ => ⟨hQ, hrun⟩⟩
      · rename_i hkey
        refine ends_access rule hQ fun m hm => ?_
        exact ih used _ (rule.write { w with gas := m } (.set key value) hkey hm)
  | remove key next ih =>
      intro used w hQ
      refine ends_whenRunning (rule.weaken w hQ) fun _ => ends_access rule hQ fun m hm => ?_
      exact ih used _ (rule.write { w with gas := m } (.delete key) trivial hm)
  | scan next ih =>
      intro used w hQ
      exact ends_whenRunning (rule.weaken w hQ) fun _ =>
        ends_access rule hQ fun m hm => ih _ used _ hm
  | query request next ih =>
      intro used w hQ
      unfold exec
      refine ends_whenRunning (rule.weaken w hQ) fun _ => ?_
      cases hq : env.query request (env.queryGas lim used w.gas) w with
      | mk r w' =>
          obtain ⟨hP, hok⟩ := query_rule rule hQ hq
          cases r with
          | ok answer =>
              exact ih answer used w' (hok answer rfl)
          | error f =>
              exact ends_stopped used hP

/-! ## What a run leaves alone -/

/-- Everything but the storage of the contract, the gas and the contracts of the transaction. -/
structure SameBut (env : VMEnv ε) (w w' : World (Multistore ε) Shared) : Prop where
  ext : w'.ms.ext = w.ms.ext
  acks : w'.ms.acks = w.ms.acks
  wasm : w'.ms.wasm = { w.ms.wasm with contractState := w'.ms.wasm.contractState }
  outside : ∀ k, ¬ contractStorePrefix env.contract <+: k →
    w'.ms.wasm.contractState[k]? = w.ms.wasm.contractState[k]?
  fresh : ∀ k, (w'.ms.wasm.contractState[k]?).isSome → (w.ms.wasm.contractState[k]?).isSome ∨
    ∃ key, key ≠ [] ∧ k = contractStorePrefix env.contract ++ key
  events : w'.events = w.events
  vm : w'.shared.vm = w.shared.vm

theorem sameBut_rule (w : World (Multistore ε) Shared) :
    RunRule env (SameBut env w) (SameBut env w) where
  weaken _ h := h
  charge _ _ _ _ h _ := ⟨h.ext, h.acks, h.wasm, h.outside, h.fresh, h.events, h.vm⟩
  exhaust _ _ _ _ _ h _ := ⟨h.ext, h.acks, h.wasm, h.outside, h.fresh, h.events, h.vm⟩
  write w' write hvalid h := by
    refine ⟨h.ext, h.acks, ?_,
      fun k hk => (KVStore.Write.getElem?_through hk).trans (h.outside k hk), fun k hk => ?_,
      h.events, h.vm⟩
    · show ({ w'.ms.wasm with contractState := _ } : WasmStore) = _
      rw [h.wasm]
      rfl
    · rcases KVStore.Write.isSome_through hvalid hk with hold | hnew
      · exact h.fresh k hold
      · exact .inr hnew
  remember _ _ h := ⟨h.ext, h.acks, h.wasm, h.outside, h.fresh, h.events, h.vm⟩
  rememberStopped _ _ h := ⟨h.ext, h.acks, h.wasm, h.outside, h.fresh, h.events, h.vm⟩

theorem exec_sameBut {run : ContractRun ρ} {used : Nat} {w w' : World (Multistore ε) Shared}
    {r : Except (Failure GoError) (VMOutcome ρ)} (h : env.exec lim run used w = (r, w')) :
    SameBut env w w' := by
  have hend : Ends env lim (SameBut env w) (SameBut env w) (env.exec lim run used w) :=
    exec_rule (sameBut_rule w) run used w
      ⟨rfl, rfl, rfl, fun _ _ => rfl, fun _ hk => .inl hk, rfl, rfl⟩
  rw [h] at hend
  obtain ⟨_, -, hsame, -⟩ := hend
  exact hsame

/-- What a run does to the storage of the contracts is a list of writes of the contract. -/
theorem exec_writes {run : ContractRun ρ} {used : Nat} {w w' : World (Multistore ε) Shared}
    {r : Except (Failure GoError) (VMOutcome ρ)} (h : env.exec lim run used w = (r, w')) :
    ∃ writes, w'.ms.wasm.contractState =
      KVStore.writeAll (contractStorePrefix env.contract) writes w.ms.wasm.contractState := by
  have rule : RunRule env
      (fun w₁ => ∃ writes, w₁.ms.wasm.contractState =
        KVStore.writeAll (contractStorePrefix env.contract) writes w.ms.wasm.contractState)
      (fun w₁ => ∃ writes, w₁.ms.wasm.contractState =
        KVStore.writeAll (contractStorePrefix env.contract) writes w.ms.wasm.contractState) :=
    { weaken := fun _ h => h
      charge := fun _ _ _ _ h _ => h
      exhaust := fun _ _ _ _ _ h _ => h
      write := fun w₁ write _ ⟨writes, h⟩ => ⟨writes ++ [write], by
        show write.through _ w₁.ms.wasm.contractState = _
        rw [h, KVStore.writeAll, KVStore.writeAll, List.foldl_append]
        rfl⟩
      remember := fun _ _ h => h
      rememberStopped := fun _ _ h => h }
  have hend : Ends env lim _ _ (env.exec lim run used w) := exec_rule rule run used w ⟨[], rfl⟩
  rw [h] at hend
  obtain ⟨_, -, hwrites, -⟩ := hend
  exact hwrites

end VMEnv

end Wasmd
