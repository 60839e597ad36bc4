import Wasmd.Keeper.Manage

/-!
# What calls of the keeper leave alone

Most of what the keeper does is to charge gas, to look things up, to emit events, to call other
modules and to run contracts.  None of this touches the registry: a contract in the VM writes to its
own storage only.

* `Confined A w w'` — from `w` to `w'` nothing of the store changed but the storage of the contracts
  in `A` and the state of other modules; and no code file changed.
* `Stays A x` — the call `x` is confined, however it ends; the rules for the parts of the keeper.
* `runExecute_stays`, `runContract_stays`, … — the entry points.
-/

namespace Wasmd

open ByteStore Effects Gas

variable {ε C α β ρ : Type}

/-- The store without the storage of the contracts. -/
def WasmStore.registry (s : WasmStore) : WasmStore := { s with contractState := ∅ }

/-- Nothing changed but the storage of the contracts in `A` and what is not part of the store. -/
structure Confined (A : AccAddress → Prop) (w w' : World (Multistore ε) Shared) : Prop where
  registry : w'.ms.wasm.registry = w.ms.wasm.registry
  outside : ∀ key, (∀ a, A a → ¬ contractStorePrefix a <+: key) →
    w'.ms.wasm.contractState[key]? = w.ms.wasm.contractState[key]?
  /-- No contract has set the empty key. -/
  fresh : ∀ key, (w'.ms.wasm.contractState[key]?).isSome → (w.ms.wasm.contractState[key]?).isSome ∨
    ∃ a, A a ∧ ∃ own, own ≠ [] ∧ key = contractStorePrefix a ++ own
  acks : w'.ms.acks = w.ms.acks
  files : w'.shared.vm.codes = w.shared.vm.codes

namespace Confined

variable {A B : AccAddress → Prop} {w w₁ w' : World (Multistore ε) Shared}

theorem refl (w : World (Multistore ε) Shared) : Confined A w w :=
  ⟨rfl, fun _ _ => rfl, fun _ hk => .inl hk, rfl, rfl⟩

theorem trans (h : Confined A w w₁) (h' : Confined A w₁ w') : Confined A w w' where
  registry := h'.registry.trans h.registry
  outside key hk := (h'.outside key hk).trans (h.outside key hk)
  fresh key hk := (h'.fresh key hk).elim (h.fresh key) .inr
  acks := h'.acks.trans h.acks
  files := h'.files.trans h.files

/-- The store and the code files are the same. -/
theorem of_eq (hms : w'.ms.wasm = w.ms.wasm) (hacks : w'.ms.acks = w.ms.acks)
    (hfiles : w'.shared.vm.codes = w.shared.vm.codes) : Confined A w w' :=
  ⟨by rw [hms], fun _ _ => by rw [hms], fun _ hk => .inl (hms ▸ hk), hacks, hfiles⟩

/-- What is read from the registry is the same. -/
theorem read_eq (h : Confined A w w') (f : WasmStore → α) :
    f w'.ms.wasm.registry = f w.ms.wasm.registry := by
  rw [h.registry]

theorem mono (hAB : ∀ a, A a → B a) (h : Confined A w w') : Confined B w w' where
  registry := h.registry
  outside key hk := h.outside key fun a ha => hk a (hAB a ha)
  fresh key hk := (h.fresh key hk).imp_right fun ⟨a, ha, hown⟩ => ⟨a, hAB a ha, hown⟩
  acks := h.acks
  files := h.files

end Confined

/-- The call is confined, however it ends. -/
def Stays (A : AccAddress → Prop) (x : KeeperM ε α) : Prop := ∀ w, Confined A w (x w).2

namespace Stays

variable {A B : AccAddress → Prop} {x : KeeperM ε α} {f : α → KeeperM ε β}

theorem confined (hx : Stays A x) {w w' : World (Multistore ε) Shared}
    {r : Except (Failure GoError) α} (h : x w = (r, w')) : Confined A w w' := by
  have hw := hx w
  rwa [h] at hw

theorem of_state (h : ∀ w, (x w).2.ms.wasm = w.ms.wasm ∧ (x w).2.ms.acks = w.ms.acks ∧
    (x w).2.shared.vm.codes = w.shared.vm.codes) : Stays A x :=
  fun w => .of_eq (h w).1 (h w).2.1 (h w).2.2

theorem bind (hx : Stays A x) (hf : ∀ a, Stays A (f a)) : Stays A (x >>= f) := by
  intro w
  have h := hx w
  rw [GoM.bind_run]
  split
  · rename_i a w₁ hs
    rw [hs] at h
    exact h.trans (hf a w₁)
  · rename_i e w₁ hs
    rwa [hs] at h

theorem mapError {g : GoError → GoError} (hx : Stays A x) : Stays A (GoM.mapError g x) := by
  intro w
  have h := hx w
  unfold GoM.mapError
  split
  · rename_i e w₁ hs
    rwa [hs] at h
  · exact h

theorem pure (a : α) : Stays A (Pure.pure a : KeeperM ε α) := fun w => .refl w

theorem failWith (e : GoError) : Stays A (GoM.failWith e : KeeperM ε α) := fun w => .refl w

theorem raise (p : Panic) : Stays A (GoM.raise p : KeeperM ε α) := fun w => .refl w

theorem ensure (c : Prop) [Decidable c] (e : GoError) :
    Stays A (GoM.ensure c e : KeeperM ε Unit) := by
  unfold GoM.ensure
  split
  · exact pure ()
  · exact failWith e

theorem ofOption (o : Option α) (e : GoError) : Stays A (GoM.ofOption o e : KeeperM ε α) := by
  cases o with
  | none => exact failWith e
  | some a => exact pure a

theorem ofOptionPanic (o : Option α) (p : Panic) :
    Stays A (GoM.ofOptionPanic o p : KeeperM ε α) := by
  cases o with
  | none => exact raise p
  | some a => exact pure a

theorem ofExcept (r : Except (Failure GoError) α) : Stays A (GoM.ofExcept r : KeeperM ε α) :=
  fun w => .refl w

theorem readStore (g : WasmStore → α) : Stays A (Wasmd.readStore g : KeeperM ε α) :=
  fun w => .refl w

theorem orPanic (r : Except Panic α) : Stays A (Wasmd.orPanic r : KeeperM ε α) := fun w => .refl w

theorem orError (r : Except GoError α) : Stays A (Wasmd.orError r : KeeperM ε α) := fun w => .refl w

theorem emitEvents (evts : List Event) : Stays A (Wasmd.emitEvents evts : KeeperM ε Unit) :=
  of_state fun _ => ⟨rfl, rfl, rfl⟩

theorem consumeGas (amount : UInt64) (d : String) :
    Stays A (Wasmd.consumeGas amount d : KeeperM ε Unit) :=
  of_state fun _ => ⟨rfl, rfl, rfl⟩

theorem onMeter (g : GasMeter → Except Panic α × GasMeter) :
    Stays A (Wasmd.onMeter g : KeeperM ε α) :=
  of_state fun _ => ⟨rfl, rfl, rfl⟩

theorem onExt (y : ExtM ε α) : Stays A (Wasmd.onExt y : KeeperM ε α) :=
  of_state fun _ => ⟨rfl, rfl, rfl⟩

theorem checkDiscountEligibility (checksum : Bytes) (isPinned : Bool) :
    Stays A (Wasmd.checkDiscountEligibility checksum isPinned : KeeperM ε Bool) :=
  of_state fun _ => ⟨rfl, rfl, rfl⟩

theorem ite {c : Prop} [Decidable c] {y z : KeeperM ε α} (hy : Stays A y) (hz : Stays A z) :
    Stays A (if c then y else z) := by
  split
  · exact hy
  · exact hz

end Stays

/-! ## Runs in the VM -/

/-- **A contract writes to its own storage only.** -/
theorem VMEnv.call_stays (env : VMEnv ε) (vmMeter : VMMeter) (run : ContractRun ρ) :
    Stays (· = env.contract) (env.call vmMeter run) := by
  unfold VMEnv.call
  refine (Stays.onMeter _).bind fun gasLeft => ?_
  refine Stays.bind (fun w => .refl w) fun start => ?_
  refine Stays.bind (fun w => ?_) fun out => (Stays.onMeter _).bind fun _ => Stays.pure _
  cases hrun : env.exec ⟨vmMeter, gasLeft, start⟩ run 0 w with
  | mk r w' =>
      have hsame := VMEnv.exec_sameBut hrun
      refine ⟨?_, fun key hk => hsame.outside key (hk _ rfl), fun key hk => ?_, hsame.acks,
        by rw [hsame.vm]⟩
      · rw [hsame.wasm]
        rfl
      · exact (hsame.fresh key hk).imp_right fun hown => ⟨_, rfl, hown⟩

/-! ## Parts of the entry points -/

section Parts

variable {A : AccAddress → Prop} (k : Keeper ε C)

theorem contractInstance_stays (codec : AddressCodec) (a : AccAddress) :
    Stays A (contractInstance codec a : KeeperM ε _) :=
  (Stays.readStore _).bind fun _ => (Stays.ofOption _ _).bind fun _ =>
    (Stays.readStore _).bind fun _ => (Stays.ofOption _ _).bind fun _ => Stays.pure _

theorem getParams_stays : Stays A (getParams : KeeperM ε Params) :=
  (Stays.readStore _).bind fun _ => Stays.ofOptionPanic _ _

theorem contractResult_stays (vmFailed failed : Registered)
    (out : Except VMStop (Option (Except String (ContractResponse C)))) :
    Stays A (contractResult vmFailed failed out : KeeperM ε _) := by
  unfold contractResult
  split
  · exact Stays.failWith _
  · exact Stays.failWith _
  · exact Stays.ite (Stays.raise _) (Stays.failWith _)
  · exact Stays.pure _

theorem loadModule_stays (name : String) (codeID : UInt64) (checksum : Bytes) (msgLen : Int) :
    Stays A (k.loadModule name codeID checksum msgLen) :=
  (Stays.readStore _).bind fun _ => (Stays.checkDiscountEligibility _ _).bind fun _ =>
    (Stays.orPanic _).bind fun _ => Stays.consumeGas _ _

theorem loadReply_stays (reply : Reply) : Stays A (k.loadReply reply) :=
  (Stays.orPanic _).bind fun _ => Stays.consumeGas _ _

theorem setup_stays (codeID : UInt64) (checksum : Bytes) (entry : VMEntry) :
    Stays A (k.setup codeID checksum entry) := by
  cases entry with
  | query req => exact loadModule_stays k _ _ _ _
  | ibcChannelOpen msg => exact loadModule_stays k _ _ _ _
  | respond input =>
      cases input with
      | reply r => exact loadReply_stays k r
      | ibc2PacketAck _ => exact Stays.pure ()
      | ibc2PacketReceive _ => exact Stays.pure ()
      | ibc2PacketTimeout _ => exact Stays.pure ()
      | ibc2PacketSend _ => exact Stays.pure ()
      | _ => exact loadModule_stays k _ _ _ _

theorem transferFunds_stays (sender contract : AccAddress) (coins : Coins.CoinSet) :
    Stays A (k.transferFunds sender contract coins) :=
  Stays.ite (Stays.pure ()) (Stays.onExt _)

theorem unpackCode_stays (wasmCode : Bytes) : Stays A (k.unpackCode wasmCode) := by
  unfold Keeper.unpackCode
  refine Stays.ite ?_ (Stays.pure _)
  refine (Stays.orPanic _).bind fun _ => (Stays.consumeGas _ _).bind fun _ => ?_
  split
  · exact Stays.pure _
  · exact Stays.failWith _

theorem claimAccount_stays (contract : AccAddress) : Stays A (k.claimAccount contract) := by
  unfold Keeper.claimAccount
  refine (Stays.onExt _).bind fun acct => ?_
  cases acct with
  | none => exact Stays.onExt _
  | some acct =>
      refine (Stays.ensure _ _).bind fun _ => Stays.ite (Stays.pure ()) ?_
      exact (Stays.onExt _).bind fun _ => (Stays.mapError (Stays.onExt _)).bind fun _ =>
        Stays.ensure _ _

theorem emitResponse_stays (ctx : SdkContext) (contract : AccAddress) (attrs : List Attribute)
    (evts : List Event) : Stays A (k.emitResponse ctx contract attrs evts) := by
  exact (Stays.orPanic _).bind fun _ => (Stays.consumeGas _ _).bind fun _ =>
    (Stays.orError _).bind fun _ => (Stays.emitEvents _).bind fun _ =>
      (Stays.orError _).bind fun _ => (Stays.emitEvents _).bind fun _ => Stays.orError _

end Parts

/-! ## Entry points -/

section Entries

variable (k : Keeper ε C)

/-- No contract at all. -/
def noContract : AccAddress → Prop := fun _ => False

theorem Confined.of_noContract {A : AccAddress → Prop} {w w' : World (Multistore ε) Shared}
    (h : Confined noContract w w') : Confined A w w' :=
  h.mono fun _ ha => ha.elim

/-- Nothing of the store changed at all. -/
theorem Confined.wasm_eq {w w' : World (Multistore ε) Shared} (h : Confined noContract w w') :
    w'.ms.wasm = w.ms.wasm := by
  have hstate : w'.ms.wasm.contractState = w.ms.wasm.contractState :=
    Std.ExtTreeMap.ext_getElem? fun {key} => h.outside key fun _ ha => ha.elim
  calc w'.ms.wasm = { w'.ms.wasm.registry with contractState := w'.ms.wasm.contractState } := rfl
    _ = { w.ms.wasm.registry with contractState := w.ms.wasm.contractState } := by
        rw [h.registry, hstate]
    _ = w.ms.wasm := rfl

variable {ctx : SdkContext} {codeID : UInt64} {checksum : Bytes} {entry : VMEntry}
  {between : KeeperM ε AccAddress} {run : AccAddress → ContractRun ρ}
  {w w' : World (Multistore ε) Shared} {contract : AccAddress}

theorem prepare_ok (h : k.prepare ctx codeID checksum entry between w = (.ok contract, w')) :
    ∃ w₁, Confined noContract w w₁ ∧ between w₁ = (.ok contract, w') := by
  obtain ⟨_, w₁, hsetup, h₁⟩ := GoM.bind_ok_iff.mp h
  obtain ⟨c, w₂, hbetween, h₂⟩ := GoM.bind_ok_iff.mp h₁
  obtain ⟨_, w₃, henv, h₃⟩ := GoM.bind_ok_iff.mp h₂
  obtain ⟨-, rfl⟩ := orPanic_ok_iff.mp henv
  obtain ⟨rfl, rfl⟩ := GoM.pure_ok_iff.mp h₃
  exact ⟨w₁, (setup_stays k codeID checksum entry).confined hsetup, hbetween⟩

/-- **A call that got through**: a confined part, what the entry point does of its own, and the run,
which is confined to the contract. -/
theorem enter_ok {out : Except VMStop ρ}
    (h : k.enter ctx codeID checksum entry between run w = (.ok (contract, out), w')) :
    ∃ w₁ w₂, Confined noContract w w₁ ∧ between w₁ = (.ok contract, w₂) ∧
      Confined (· = contract) w₂ w' := by
  obtain ⟨c, w₂, hprep, h₁⟩ := GoM.bind_ok_iff.mp h
  obtain ⟨res, w₃, hcall, h₂⟩ := GoM.bind_ok_iff.mp h₁
  obtain ⟨heq, rfl⟩ := GoM.pure_ok_iff.mp h₂
  cases heq
  obtain ⟨w₁, hfirst, hbetween⟩ := prepare_ok k hprep
  exact ⟨w₁, w₂, hfirst, hbetween, (VMEnv.call_stays _ _ _).confined hcall⟩

/-- A call on a given contract is confined to it, however it ends. -/
theorem enter_stays (hbetween : Stays (· = contract) between)
    (hresult : ∀ w a w', between w = (.ok a, w') → a = contract) :
    Stays (· = contract) (k.enter ctx codeID checksum entry between run) := by
  have hprep : Stays (· = contract) (k.prepare ctx codeID checksum entry between) :=
    (setup_stays k _ _ _).bind fun _ => hbetween.bind fun _ => (Stays.orPanic _).bind fun _ =>
      Stays.pure _
  intro w
  unfold Keeper.enter
  rw [GoM.bind_run]
  cases hp : k.prepare ctx codeID checksum entry between w with
  | mk r w₁ =>
      have hfirst := hprep.confined hp
      cases r with
      | error e => exact hfirst
      | ok a =>
          obtain ⟨_, -, hb⟩ := prepare_ok k hp
          obtain rfl := hresult _ _ _ hb
          have hcall := VMEnv.call_stays (k.vmEnv ctx a) entry.entryPoint.vmMeter (run a)
          exact hfirst.trans (hcall.bind (fun res => Stays.pure (a, res)) w₁)

theorem pure_result (w : World (Multistore ε) Shared) (a : AccAddress)
    (w' : World (Multistore ε) Shared)
    (h : (pure contract : KeeperM ε AccAddress) w = (.ok a, w')) : a = contract :=
  (GoM.pure_ok_iff.mp h).1

theorem runExecute_stays (ctx : SdkContext) (contract caller : AccAddress) (msg : Bytes)
    (coins : Coins.CoinSet) :
    Stays (· = contract) (k.runExecute ctx contract caller msg coins) := by
  refine (contractInstance_stays _ _).bind fun p => ?_
  refine (enter_stays k ((transferFunds_stays k _ _ _).bind fun _ => Stays.pure _) ?_).bind
    fun out => (contractResult_stays _ _ _).bind fun _ => (Stays.emitEvents _).bind fun _ =>
      Stays.pure _
  intro w a w' h
  obtain ⟨_, w₁, -, h₁⟩ := GoM.bind_ok_iff.mp h
  exact (GoM.pure_ok_iff.mp h₁).1

theorem runContract_stays (ctx : SdkContext) (contract : AccAddress) (input : VMInput)
    (vmFailed : Registered) : Stays (· = contract) (k.runContract ctx contract input vmFailed) :=
  (contractInstance_stays _ _).bind fun _ => (enter_stays k (Stays.pure _) pure_result).bind
    fun _ => (contractResult_stays _ _ _).bind fun _ => Stays.pure _

theorem runReceive_stays (ctx : SdkContext) (contract : AccAddress) (input : VMInput) :
    Stays (· = contract) (k.runReceive ctx contract input) := by
  refine (contractInstance_stays _ _).bind fun _ =>
    (enter_stays k (Stays.pure _) pure_result).bind fun out => ?_
  rcases out with ⟨_, _ | _ | _ | res⟩
  · exact Stays.raise _
  · exact Stays.failWith _
  · exact Stays.ite (Stays.raise _) (Stays.pure _)
  · exact Stays.pure _

theorem acceptPacket_stays (ctx : SdkContext) (contract : AccAddress) (input : VMInput) :
    Stays (· = contract) (k.acceptPacket ctx contract input) := by
  refine (runReceive_stays k _ _ _).bind fun out => ?_
  rcases out with ⟨_, _ | _⟩
  · exact Stays.failWith _
  · exact Stays.pure _

end Entries

end Wasmd
