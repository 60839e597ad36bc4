import Wasmd.Keeper.Isolation
import Wasmd.Keeper.Outcome

/-!
# What a contract does to its own storage

The VM runs a contract on a window into the store of the module.  To the contract that window is a
store of its own, and what a run does to it does not depend on anything else of the chain, but for
the answers to its queries.

* `ContractRun.Returns` — the meaning of a run on a store of its own.
* `VMEnv.exec_returns` — **the VM on the store of the module runs the contract on its own storage.**
* `Answers` — the code of a stored contract was called and answered.  `Responded`, `Accepted` — the
  same for a given answer, with what it left alone.
* `runExecute_answers`, `runContract_responded`, `runReceive_responded`, … — the entry points.
-/

namespace Wasmd

open ByteStore Effects Gas KVStore

variable {ε C ρ : Type}

/-- The storage of a contract, as a store of its own. -/
def WasmStore.storage (s : WasmStore) (a : AccAddress) : KVStore Bytes :=
  storageOf s.contractState a

/-! ## Runs on a store of their own -/

/-- **The meaning of a run**: on the storage `S`, and whatever its queries are answered, the
contract can return `res` and leave the storage `S'`. -/
inductive ContractRun.Returns : ContractRun ρ → KVStore Bytes → ρ → KVStore Bytes → Prop
  | ret {res : ρ} {S : KVStore Bytes} : Returns (.ret res) S res S
  | compute {gas : UInt64} {next : ContractRun ρ} {S S' : KVStore Bytes} {res : ρ} :
      Returns next S res S' → Returns (.compute gas next) S res S'
  | get {key : Bytes} {next : Option Bytes → ContractRun ρ} {S S' : KVStore Bytes} {res : ρ} :
      Returns (next S[key]?) S res S' → Returns (.get key next) S res S'
  | set {key value : Bytes} {next : ContractRun ρ} {S S' : KVStore Bytes} {res : ρ} : key ≠ [] →
      Returns next (S.insert key value) res S' → Returns (.set key value next) S res S'
  | remove {key : Bytes} {next : ContractRun ρ} {S S' : KVStore Bytes} {res : ρ} :
      Returns next (S.erase key) res S' → Returns (.remove key next) S res S'
  | scan {next : List (Bytes × Bytes) → ContractRun ρ} {S S' : KVStore Bytes} {res : ρ} :
      Returns (next S.toList) S res S' → Returns (.scan next) S res S'
  | query {request : Bytes} {next : Except String Bytes → ContractRun ρ} {S S' : KVStore Bytes}
      {res : ρ} (answer : Except String Bytes) :
      Returns (next answer) S res S' → Returns (.query request next) S res S'

/-! ## In the VM -/

namespace VMEnv

section Exec

variable {env : VMEnv ε} {lim : VMLimits} {used used' : Nat} {w w' : World (Multistore ε) Shared}
  {next : KeeperM ε (VMOutcome ρ)} {res : ρ}

theorem whenRunning_returned
    (h : env.whenRunning lim used next w = (.ok ⟨.ok res, used'⟩, w')) :
    next w = (.ok ⟨.ok res, used'⟩, w') := by
  unfold whenRunning at h
  split at h
  · exact h
  · cases h

theorem access_returned {a : StorageAccess}
    (h : env.access a used next w = (.ok ⟨.ok res, used'⟩, w')) :
    ∃ m, next { w with gas := m } = (.ok ⟨.ok res, used'⟩, w') := by
  unfold access at h
  split at h
  · rename_i m _
    exact ⟨m, h⟩
  · cases h

/-- A query that is answered leaves the store alone. -/
theorem query_answered {request : Bytes} {gas : UInt64} {answer : Except String Bytes}
    (h : env.query request gas w = (.ok answer, w')) : w'.ms = w.ms := by
  unfold query at h
  split at h
  split at h
  · cases h
  · rw [← (Prod.mk.inj h).2]

/-- **The VM on the store of the module runs the contract on its own storage.** -/
theorem exec_returns {run : ContractRun ρ}
    (h : env.exec lim run used w = (.ok ⟨.ok res, used'⟩, w')) :
    run.Returns (w.ms.wasm.storage env.contract) res (w'.ms.wasm.storage env.contract) := by
  induction run generalizing used w with
  | ret res' =>
      cases whenRunning_returned h
      exact .ret
  | abort err => cases whenRunning_returned h
  | compute gas next ih => exact .compute (ih (whenRunning_returned h))
  | get key next ih =>
      obtain ⟨m, hnext⟩ := access_returned (whenRunning_returned h)
      refine .get ?_
      rw [show (w.ms.wasm.storage env.contract)[key]? =
        w.ms.wasm.contractState[env.stateKey key]? from
        getElem?_view]
      exact ih (w := { w with gas := m }) _ hnext
  | set key value next ih =>
      unfold exec at h
      have hset := whenRunning_returned h
      split at hset
      · cases hset
      rename_i hkey
      obtain ⟨m, hnext⟩ := access_returned hset
      refine .set hkey ?_
      rw [show (w.ms.wasm.storage env.contract).insert key value =
        view ((Write.set key value).through (contractStorePrefix env.contract)
          w.ms.wasm.contractState) (contractStorePrefix env.contract) from
        (Write.view_through (.set key value)).symm]
      exact ih hnext
  | remove key next ih =>
      obtain ⟨m, hnext⟩ := access_returned (whenRunning_returned h)
      refine .remove ?_
      rw [show (w.ms.wasm.storage env.contract).erase key =
        view ((Write.delete key).through (contractStorePrefix env.contract)
          w.ms.wasm.contractState) (contractStorePrefix env.contract) from
        (Write.view_through (.delete key)).symm]
      exact ih hnext
  | scan next ih =>
      obtain ⟨m, hnext⟩ := access_returned (whenRunning_returned h)
      refine .scan ?_
      rw [show (w.ms.wasm.storage env.contract).toList =
        entries w.ms.wasm.contractState (contractStorePrefix env.contract) from toList_view _ _]
      exact ih (w := { w with gas := m }) _ hnext
  | query request next ih =>
      unfold exec at h
      have hquery := whenRunning_returned h
      split at hquery
      · rename_i answer w₁ hanswer
        refine .query answer ?_
        rw [← query_answered hanswer]
        exact ih answer hquery
      · cases hquery

/-- The same with the limits and the charges around the run. -/
theorem call_returns {vmMeter : VMMeter} {run : ContractRun ρ}
    (h : env.call vmMeter run w = (.ok (.ok res), w')) :
    run.Returns (w.ms.wasm.storage env.contract) res (w'.ms.wasm.storage env.contract) := by
  obtain ⟨gasLeft, w₁, hlimit, h₁⟩ := GoM.bind_ok_iff.mp h
  obtain ⟨start, w₂, hstart, h₂⟩ := GoM.bind_ok_iff.mp h₁
  obtain ⟨out, w₃, hexec, h₃⟩ := GoM.bind_ok_iff.mp h₂
  obtain ⟨_, w₄, hcharge, h₄⟩ := GoM.bind_ok_iff.mp h₃
  obtain ⟨hres, rfl⟩ := GoM.pure_ok_iff.mp h₄
  have hw₁ := (onMeter_keeps _).of_ok hlimit
  obtain ⟨-, rfl⟩ := GoM.gets_ok_iff.mp hstart
  have hw₄ := (onMeter_keeps _).of_ok hcharge
  simp only [Prod.mk.injEq] at hw₁ hw₄
  obtain ⟨result, used⟩ := out
  obtain rfl : .ok res = result := hres
  rw [← hw₁.1, hw₄.1]
  exact exec_returns hexec

end Exec

end VMEnv

/-! ## Entry points -/

section Entries

variable {k : Keeper ε C} {ctx : SdkContext} {w w' : World (Multistore ε) Shared} {a : AccAddress}

/-- A contract that returned: what the entry point does of its own, and the run on the storage. -/
theorem enter_returned {codeID : UInt64} {checksum : Bytes} {entry : VMEntry}
    {between : KeeperM ε AccAddress} {run : AccAddress → ContractRun ρ} {res : ρ}
    (h : k.enter ctx codeID checksum entry between run w = (.ok (a, .ok res), w')) :
    ∃ w₁ w₂, Confined noContract w w₁ ∧ between w₁ = (.ok a, w₂) ∧
      (run a).Returns (w₂.ms.wasm.storage a) res (w'.ms.wasm.storage a) := by
  obtain ⟨c, w₂, hprep, h₁⟩ := GoM.bind_ok_iff.mp h
  obtain ⟨out, w₃, hcall, h₂⟩ := GoM.bind_ok_iff.mp h₁
  obtain ⟨heq, rfl⟩ := GoM.pure_ok_iff.mp h₂
  cases heq
  obtain ⟨w₁, hfirst, hbetween⟩ := prepare_ok k hprep
  exact ⟨w₁, w₂, hfirst, hbetween, VMEnv.call_returns hcall⟩

/-- The same when nothing but other modules is touched before the run. -/
theorem enter_returned_quietly {codeID : UInt64} {checksum : Bytes} {entry : VMEntry}
    {between : KeeperM ε AccAddress} {run : AccAddress → ContractRun ρ} {res : ρ}
    (hbetween : Stays noContract between)
    (h : k.enter ctx codeID checksum entry between run w = (.ok (a, .ok res), w')) :
    (run a).Returns (w.ms.wasm.storage a) res (w'.ms.wasm.storage a) := by
  obtain ⟨w₁, w₂, hfirst, hrest, hrun⟩ := enter_returned h
  rw [← hfirst.wasm_eq, ← (hbetween.confined hrest).wasm_eq]
  exact hrun

/-- The state of other modules. -/
def othersState (w : World (Multistore ε) Shared) : ε := w.ms.ext

theorem loadModule_keepsOthers (k : Keeper ε C) (name : String) (codeID : UInt64) (checksum : Bytes)
    (msgLen : Int) : GoM.Keeps othersState (k.loadModule name codeID checksum msgLen) :=
  .bind (fun _ => rfl) fun _ => .bind (fun _ => rfl) fun _ => .bind (fun _ => rfl) fun _ _ => rfl

theorem setup_keepsOthers (k : Keeper ε C) (codeID : UInt64) (checksum : Bytes) (entry : VMEntry) :
    GoM.Keeps othersState (k.setup codeID checksum entry) := by
  cases entry with
  | query req => exact loadModule_keepsOthers k _ _ _ _
  | ibcChannelOpen msg => exact loadModule_keepsOthers k _ _ _ _
  | respond input =>
      cases input with
      | reply r => exact .bind (fun _ => rfl) fun _ _ => rfl
      | ibc2PacketAck _ | ibc2PacketReceive _ | ibc2PacketTimeout _ | ibc2PacketSend _ =>
          exact .pure ()
      | _ => exact loadModule_keepsOthers k _ _ _ _

theorem VMEnv.call_keepsOthers (env : VMEnv ε) (vmMeter : VMMeter) (run : ContractRun ρ) :
    GoM.Keeps othersState (env.call vmMeter run) := by
  unfold VMEnv.call
  refine .bind (fun _ => rfl) fun gasLeft => .bind (.gets _) fun start => ?_
  refine .bind (fun w => ?_) fun out => .bind (fun _ => rfl) fun _ => .pure _
  cases hrun : env.exec ⟨vmMeter, gasLeft, start⟩ run 0 w with
  | mk r w' => exact (VMEnv.exec_sameBut hrun).ext

/-- A contract in the VM reaches other modules through its queries only, which change nothing. -/
theorem enter_keepsOthers (k : Keeper ε C) {codeID : UInt64} {checksum : Bytes} {entry : VMEntry}
    {between : KeeperM ε AccAddress} {run : AccAddress → ContractRun ρ}
    (hbetween : GoM.Keeps othersState between) :
    GoM.Keeps othersState (k.enter ctx codeID checksum entry between run) :=
  .bind (.bind (setup_keepsOthers k _ _ _) fun _ => .bind hbetween fun _ =>
    .bind (.ofExcept _) fun _ => .pure _) fun _ =>
    .bind (VMEnv.call_keepsOthers _ _ _) fun _ => .pure _

theorem contractResult_ok {vmFailed failed : Registered} {res : ContractResponse C}
    {out : Except VMStop (Option (Except String (ContractResponse C)))}
    (h : contractResult vmFailed failed out w = (.ok res, w')) :
    out = .ok (some (.ok res)) ∧ w' = w := by
  rcases out with stop | _ | err | res'
  · exact absurd h GoM.failWith_ne_ok
  · exact absurd h GoM.failWith_ne_ok
  · by_cases herr : err = ""
    · simp only [contractResult, herr, if_true] at h
      exact absurd h GoM.raise_ne_ok
    · simp only [contractResult, herr, if_false] at h
      exact absurd h GoM.failWith_ne_ok
  · obtain ⟨rfl, rfl⟩ := GoM.pure_ok_iff.mp h
    exact ⟨rfl, rfl⟩

/-! ### Contracts that are there -/

/-- The entry points of a contract that is there, other than that of a migration. -/
def VMInput.isCall : VMInput → Bool
  | .instantiate .. | .migrate .. => false
  | _ => true

/-- **The code of a stored contract was called and answered.** -/
inductive Answers (k : Keeper ε C) (a : AccAddress) (s s' : WasmStore) : Prop
  | called (info : ContractInfo) (code : CodeInfo) (ctx : SdkContext) (input : VMInput)
      (res : ContractResponse C) (hinfo : s.getContractInfo a = some info)
      (hcode : s.getCodeInfo info.codeID = some code) (hinput : input.isCall = true)
      (hrun : (k.wasmVM.call ctx code.codeHash a input).Returns (s.storage a) (some (.ok res))
        (s'.storage a))
  /-- A channel is opened; an error without a text lets it pass. -/
  | opened (info : ContractInfo) (code : CodeInfo) (ctx : SdkContext) (msg : IBCMsg)
      (answer : Except String (Option String)) (hinfo : s.getContractInfo a = some info)
      (hcode : s.getCodeInfo info.codeID = some code)
      (hanswer : ∀ err, answer = .error err → err = "")
      (hrun : (k.wasmVM.ibcChannelOpen ctx code.codeHash a msg).Returns (s.storage a)
        (some answer) (s'.storage a))

theorem Answers.stored {s s' : WasmStore} (h : Answers k a s s') :
    (s.getContractInfo a).isSome := by
  cases h with
  | called info _ _ _ _ hinfo => exact Option.isSome_of_eq_some hinfo
  | opened info _ _ _ _ hinfo => exact Option.isSome_of_eq_some hinfo

/-- The lookup of the contract and its code at the start of an entry point. -/
theorem instance_ok {β : Type} {codec : AddressCodec} {f : ContractInfo × CodeInfo → KeeperM ε β}
    {b : β} (h : (contractInstance codec a >>= f) w = (.ok b, w')) :
    ∃ info code, w.ms.wasm.getContractInfo a = some info ∧
      w.ms.wasm.getCodeInfo info.codeID = some code ∧ f (info, code) w = (.ok b, w') := by
  obtain ⟨⟨info, code⟩, w₁, hinstance, hrest⟩ := GoM.bind_ok_iff.mp h
  obtain ⟨info', hinfo, h₁⟩ := lookup_ok hinstance
  obtain ⟨code', hcode, h₂⟩ := lookup_ok h₁
  obtain ⟨heq, rfl⟩ := GoM.pure_ok_iff.mp h₂
  cases heq
  exact ⟨info, code, hinfo, hcode, hrest⟩

theorem runExecute_answers {caller : AccAddress} {msg : Bytes} {coins : Coins.CoinSet}
    {out : ContractInfo × ContractResponse C}
    (h : k.runExecute ctx a caller msg coins w = (.ok out, w')) :
    Answers k a w.ms.wasm w'.ms.wasm := by
  obtain ⟨info, code, hinfo, hcode, h₁⟩ := instance_ok h
  obtain ⟨⟨a', ran⟩, w₁, hcall, h₂⟩ := GoM.bind_ok_iff.mp h₁
  obtain ⟨res, w₂, hresult, h₃⟩ := GoM.bind_ok_iff.mp h₂
  obtain ⟨rfl, rfl⟩ := contractResult_ok hresult
  obtain ⟨_, w₃, hevents, h₄⟩ := GoM.bind_ok_iff.mp h₃
  obtain rfl := emitEvents_ok_iff.mp hevents
  obtain ⟨-, rfl⟩ := GoM.pure_ok_iff.mp h₄
  obtain rfl : a' = a := by
    obtain ⟨_, w₅, -, hbetween, -⟩ := enter_ok k hcall
    obtain ⟨_, _, -, hret⟩ := GoM.bind_ok_iff.mp hbetween
    exact (GoM.pure_ok_iff.mp hret).1
  have hstays : Stays noContract (do
      k.transferFunds caller a' coins
      return a' : KeeperM ε AccAddress) :=
    (transferFunds_stays k _ _ _).bind fun _ => Stays.pure _
  exact .called info code ctx (.execute caller coins msg) res hinfo hcode rfl
    (enter_returned_quietly hstays hcall)

/-- A call of a contract with nothing between the charge and the run. -/
theorem callContract_returned {codeID : UInt64} {checksum : Bytes} {input : VMInput}
    {a' : AccAddress} {ran : Option (Except String (ContractResponse C))}
    (h : k.callContract ctx codeID checksum input (pure a) w = (.ok (a', .ok ran), w')) :
    (k.wasmVM.call ctx checksum a input).Returns (w.ms.wasm.storage a) ran
      (w'.ms.wasm.storage a) := by
  obtain ⟨_, _, -, hbetween, -⟩ := enter_ok k h
  obtain rfl := (GoM.pure_ok_iff.mp hbetween).1
  exact enter_returned_quietly (Stays.pure _) h

/-- The code of a stored contract was called with the input and answered `res`; nothing of this or
another module changed but the storage of the contract. -/
structure Responded (k : Keeper ε C) (ctx : SdkContext) (a : AccAddress) (info : ContractInfo)
    (input : VMInput) (res : ContractResponse C) (w w' : World (Multistore ε) Shared) : Prop where
  stored : w.ms.wasm.getContractInfo a = some info
  returned : ∃ code, w.ms.wasm.getCodeInfo info.codeID = some code ∧
    (k.wasmVM.call ctx code.codeHash a input).Returns (w.ms.wasm.storage a) (some (.ok res))
      (w'.ms.wasm.storage a)
  confined : Confined (· = a) w w'
  ext : w'.ms.ext = w.ms.ext

theorem runContract_responded {input : VMInput} {vmFailed : Registered} {info : ContractInfo}
    {res : ContractResponse C} (h : k.runContract ctx a input vmFailed w = (.ok (info, res), w')) :
    Responded k ctx a info input res w w' := by
  have hconfined := (runContract_stays k _ _ _ _).confined h
  obtain ⟨info', code, hinfo, hcode, h₁⟩ := instance_ok h
  obtain ⟨⟨a', ran⟩, w₁, hcall, h₂⟩ := GoM.bind_ok_iff.mp h₁
  obtain ⟨res', w₂, hresult, h₃⟩ := GoM.bind_ok_iff.mp h₂
  obtain ⟨rfl, rfl⟩ := contractResult_ok hresult
  obtain ⟨heq, rfl⟩ := GoM.pure_ok_iff.mp h₃
  cases heq
  exact ⟨hinfo, ⟨code, hcode, callContract_returned hcall⟩, hconfined,
    (enter_keepsOthers k (.pure _)).of_ok hcall⟩

theorem runContract_answers {input : VMInput} {vmFailed : Registered}
    {out : ContractInfo × ContractResponse C} (hinput : input.isCall = true)
    (h : k.runContract ctx a input vmFailed w = (.ok out, w')) :
    Answers k a w.ms.wasm w'.ms.wasm := by
  obtain ⟨hinfo, ⟨code, hcode, hrun⟩, -, -⟩ := runContract_responded h
  exact .called _ code ctx input _ hinfo hcode hinput hrun

/-- A contract that receives a packet and does not refuse it. -/
theorem runReceive_responded {input : VMInput} {info : ContractInfo} {res : ContractResponse C}
    (h : k.runReceive ctx a input w = (.ok (info, .ok res), w')) :
    Responded k ctx a info input res w w' := by
  have hconfined := (runReceive_stays k _ _ _).confined h
  obtain ⟨info', code, hinfo, hcode, h₁⟩ := instance_ok h
  obtain ⟨⟨a', ran⟩, w₁, hcall, h₂⟩ := GoM.bind_ok_iff.mp h₁
  rcases ran with stop | _ | err | res'
  · exact absurd h₂ GoM.raise_ne_ok
  · exact absurd h₂ GoM.failWith_ne_ok
  · by_cases herr : err = ""
    · simp only [herr, if_true] at h₂
      exact absurd h₂ GoM.raise_ne_ok
    · simp only [herr, if_false] at h₂
      cases (GoM.pure_ok_iff.mp h₂).1
  · obtain ⟨heq, rfl⟩ := GoM.pure_ok_iff.mp h₂
    cases heq
    exact ⟨hinfo, ⟨code, hcode, callContract_returned hcall⟩, hconfined,
      (enter_keepsOthers k (.pure _)).of_ok hcall⟩

theorem acceptPacket_ok {input : VMInput} {out : ContractInfo × ContractResponse C}
    (h : k.acceptPacket ctx a input w = (.ok out, w')) :
    k.runReceive ctx a input w = (.ok (out.1, .ok out.2), w') := by
  obtain ⟨⟨info, received⟩, w₁, hrun, h₁⟩ := GoM.bind_ok_iff.mp h
  cases received with
  | error err => exact absurd h₁ GoM.failWith_ne_ok
  | ok res =>
      obtain ⟨rfl, rfl⟩ := GoM.pure_ok_iff.mp h₁
      exact hrun

theorem acceptPacket_answers {input : VMInput} {out : ContractInfo × ContractResponse C}
    (hinput : input.isCall = true) (h : k.acceptPacket ctx a input w = (.ok out, w')) :
    Answers k a w.ms.wasm w'.ms.wasm := by
  obtain ⟨hinfo, ⟨code, hcode, hrun⟩, -, -⟩ := runReceive_responded (acceptPacket_ok h)
  exact .called _ code ctx input _ hinfo hcode hinput hrun

/-- The code of a stored contract was asked whether a channel may be opened, and let it open;
nothing of this or another module changed but the storage of the contract. -/
structure Accepted (k : Keeper ε C) (ctx : SdkContext) (a : AccAddress) (msg : IBCMsg)
    (w w' : World (Multistore ε) Shared) : Prop where
  returned : ∃ info code answer, w.ms.wasm.getContractInfo a = some info ∧
    w.ms.wasm.getCodeInfo info.codeID = some code ∧ (∀ err, answer = .error err → err = "") ∧
    (k.wasmVM.ibcChannelOpen ctx code.codeHash a msg).Returns (w.ms.wasm.storage a) (some answer)
      (w'.ms.wasm.storage a)
  confined : Confined (· = a) w w'
  ext : w'.ms.ext = w.ms.ext

theorem onOpenChannel_stays (k : Keeper ε C) (ctx : SdkContext) (contract : AccAddress)
    (msg : IBCMsg) : Stays (· = contract) (k.onOpenChannel ctx contract msg) := by
  refine (contractInstance_stays _ _).bind fun _ =>
    (enter_stays k (Stays.pure _) pure_result).bind fun out => ?_
  rcases out with ⟨_, _ | _ | _ | _⟩
  · exact Stays.failWith _
  · exact Stays.failWith _
  · exact Stays.ite (Stays.pure _) (Stays.failWith _)
  · exact Stays.pure _

theorem onOpenChannel_accepted {msg : IBCMsg} {version : String}
    (h : k.onOpenChannel ctx a msg w = (.ok version, w')) : Accepted k ctx a msg w w' := by
  have hconfined := (onOpenChannel_stays k _ _ _).confined h
  obtain ⟨info, code, hinfo, hcode, h₁⟩ := instance_ok h
  obtain ⟨⟨a', ran⟩, w₁, hcall, h₂⟩ := GoM.bind_ok_iff.mp h₁
  obtain rfl : a' = a := by
    obtain ⟨_, _, -, hbetween, -⟩ := enter_ok k hcall
    exact (GoM.pure_ok_iff.mp hbetween).1
  have hext := (enter_keepsOthers k (.pure _)).of_ok hcall
  rcases ran with stop | _ | err | accepted
  · exact absurd h₂ GoM.failWith_ne_ok
  · exact absurd h₂ GoM.failWith_ne_ok
  · by_cases herr : err = ""
    · subst herr
      obtain ⟨-, rfl⟩ := GoM.pure_ok_iff.mp h₂
      exact ⟨⟨info, code, .error "", hinfo, hcode, fun err he => (Except.error.inj he).symm,
        enter_returned_quietly (Stays.pure _) hcall⟩, hconfined, hext⟩
    · simp only [herr, if_false] at h₂
      exact absurd h₂ GoM.failWith_ne_ok
  · obtain ⟨-, rfl⟩ := GoM.pure_ok_iff.mp h₂
    exact ⟨⟨info, code, .ok accepted, hinfo, hcode, nofun,
      enter_returned_quietly (Stays.pure _) hcall⟩, hconfined, hext⟩

theorem onOpenChannel_answers {msg : IBCMsg} {version : String}
    (h : k.onOpenChannel ctx a msg w = (.ok version, w')) : Answers k a w.ms.wasm w'.ms.wasm := by
  obtain ⟨info, code, answer, hinfo, hcode, hanswer, hrun⟩ := (onOpenChannel_accepted h).returned
  exact .opened info code ctx msg answer hinfo hcode hanswer hrun

end Entries

end Wasmd
