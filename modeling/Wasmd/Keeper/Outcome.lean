import Wasmd.Keeper.Frame

/-!
# What a successful operation did

One lemma for each operation of `keeper.go` that changes the registry.  It says which checks were
passed and what was written; everything later is proved from these lemmas and not from the
definitions.

* `create_ok`, `setAccessConfig_ok` — codes.
* `newInstance_ok`, `migrateContract_ok` — contracts, up to the handling of their response.
  `Assigned` says how a new contract got its address.
* `modifyContract_ok`, `setContractInfoExtension_ok`, `pinCode_ok`, `unpinCode_ok`.
-/

namespace Wasmd

open ByteStore Effects Gas

variable {ε C : Type} {k : Keeper ε C} {w w' : World (Multistore ε) Shared}

/-- No acknowledgement was handed over and no code file written. -/
structure Quiet (w w' : World (Multistore ε) Shared) : Prop where
  acks : w'.ms.acks = w.ms.acks
  files : w'.shared.vm.codes = w.shared.vm.codes

/-! ## Steps -/

theorem mustAutoIncrementID_ok {sequenceKey : Bytes} {id : UInt64}
    (h : mustAutoIncrementID sequenceKey w = (.ok id, w')) :
    id = w.ms.wasm.peekAutoIncrementID sequenceKey ∧
      w' = { w with ms := { w.ms with wasm := (w.ms.wasm.autoIncrementID sequenceKey).2 } } := by
  obtain ⟨⟨id', s⟩, w₁, hread, h₁⟩ := GoM.bind_ok_iff.mp h
  obtain ⟨hs, rfl⟩ := readStore_ok_iff.mp hread
  obtain ⟨_, w₂, hwrite, h₂⟩ := GoM.bind_ok_iff.mp h₁
  obtain rfl := writeStore_ok_iff.mp hwrite
  obtain ⟨rfl, rfl⟩ := GoM.pure_ok_iff.mp h₂
  exact ⟨congrArg Prod.fst hs, rfl⟩

theorem getParams_ok {params : Params} (h : getParams w = (.ok params, w')) :
    w.ms.wasm.params = some params ∧ w' = w := by
  obtain ⟨o, w₁, hread, h₁⟩ := GoM.bind_ok_iff.mp h
  obtain ⟨rfl, rfl⟩ := readStore_ok_iff.mp hread
  exact GoM.ofOptionPanic_ok_iff.mp h₁

/-- What is looked up and there. -/
theorem lookup_ok {α β : Type} {f : WasmStore → Option α} {e : GoError}
    {g : α → KeeperM ε β} {b : β} (h : (do
      let o ← readStore f
      let a ← GoM.ofOption o e
      g a) w = (.ok b, w')) :
    ∃ a, f w.ms.wasm = some a ∧ g a w = (.ok b, w') := by
  obtain ⟨o, w₁, hread, h₁⟩ := GoM.bind_ok_iff.mp h
  obtain ⟨rfl, rfl⟩ := readStore_ok_iff.mp hread
  obtain ⟨a, w₂, hsome, h₂⟩ := GoM.bind_ok_iff.mp h₁
  obtain ⟨ha, rfl⟩ := GoM.ofOption_ok_iff.mp hsome
  exact ⟨a, ha, h₂⟩

/-- A permission that was asked for and given. -/
theorem permitted_ok {β : Type} {x : Except Panic Bool} {e : GoError} {y : KeeperM ε β} {b : β}
    (h : (do
      let allowed ← orPanic x
      GoM.ensure (allowed = true) e
      y) w = (.ok b, w')) :
    x = .ok true ∧ y w = (.ok b, w') := by
  obtain ⟨allowed, w₁, hask, h₁⟩ := GoM.bind_ok_iff.mp h
  obtain ⟨hx, rfl⟩ := orPanic_ok_iff.mp hask
  obtain ⟨_, w₂, hyes, h₂⟩ := GoM.bind_ok_iff.mp h₁
  obtain ⟨rfl, rfl⟩ := GoM.ensure_ok_iff.mp hyes
  exact ⟨hx, h₂⟩

theorem onMeter_keeps {α : Type} (f : GasMeter → Except Panic α × GasMeter) :
    GoM.Keeps (fun w => (w.ms, w.shared)) (onMeter f : KeeperM ε α) := fun _ => rfl

theorem consumeGas_keeps (amount : UInt64) (descriptor : String) :
    GoM.Keeps (fun w => (w.ms, w.shared)) (consumeGas amount descriptor : KeeperM ε Unit) :=
  fun _ => rfl

/-! ## Codes -/

theorem unpackCode_keeps (code : Bytes) :
    GoM.Keeps (fun w => (w.ms, w.shared)) (k.unpackCode code) := by
  refine .ite (.bind (.ofExcept _) fun cost => .bind (consumeGas_keeps _ _) fun _ => ?_) (.pure _)
  split
  · exact .pure _
  · exact .failWith _

/-- The VM took the code: it has the file unless the call was a simulation. -/
theorem storeByteCode_ok {ctx : SdkContext} {code sum : Bytes}
    (h : k.storeByteCode ctx code w = (.ok sum, w')) :
    sum = k.wasmVM.checksum code ∧ w'.ms = w.ms ∧
      (ctx.simulate = true ∨ w'.shared.vm.codes[k.wasmVM.checksum code]? = some code) := by
  obtain ⟨gasLeft, w₁, hmeter, h₁⟩ := GoM.bind_ok_iff.mp h
  obtain ⟨_, w₂, hfile, h₂⟩ := GoM.bind_ok_iff.mp h₁
  obtain ⟨_, w₃, hcharge, h₃⟩ := GoM.bind_ok_iff.mp h₂
  obtain ⟨_, w₄, hverdict, h₄⟩ := GoM.bind_ok_iff.mp h₃
  obtain ⟨hok, rfl⟩ := orError_ok_iff.mp hverdict
  obtain ⟨rfl, rfl⟩ := GoM.pure_ok_iff.mp h₄
  have hw₁ := (onMeter_keeps _).of_ok hmeter
  have hw₃ := (onMeter_keeps _).of_ok hcharge
  simp only [Prod.mk.injEq] at hw₁ hw₃
  rw [hw₃.1, hw₃.2, ← hw₁.1]
  split at hfile
  · obtain rfl := GoM.modify_ok_iff.mp hfile
    exact ⟨rfl, rfl, .inr (KVStore.getElem?_insert_self _ _ _)⟩
  · rename_i hcond
    obtain ⟨-, rfl⟩ := GoM.pure_ok_iff.mp hfile
    refine ⟨rfl, rfl, .inl ?_⟩
    cases hverdict : (k.wasmVM.compile code gasLeft).2 with
    | error e => simp [hverdict, Except.mapError] at hok
    | ok u => simpa [hverdict, Except.toBool] using hcond

theorem create_ok {ctx : SdkContext} {creator : Option AccAddress} {wasmCode : Bytes}
    {access : Option AccessConfig} {authZ : AuthorizationPolicy} {out : UInt64 × Bytes}
    (h : k.create ctx creator wasmCode access authZ w = (.ok out, w')) :
    ∃ addr params fallback code, creator = some addr ∧ w.ms.wasm.params = some params ∧
      params.instantiateDefaultPermission.withAddrs k.codec [addr] = .ok fallback ∧
      authZ.canCreateCode k.codec ⟨params.codeUploadAccess, fallback⟩ addr (access.getD fallback)
        = .ok true ∧
      out = (w.ms.wasm.peekAutoIncrementID keySequenceCodeID, k.wasmVM.checksum code) ∧
      w'.ms.wasm = (w.ms.wasm.autoIncrementID keySequenceCodeID).2.storeCodeInfo
        (w.ms.wasm.peekAutoIncrementID keySequenceCodeID)
        (newCodeInfo k.codec (k.wasmVM.checksum code) addr (access.getD fallback)) ∧
      w'.ms.acks = w.ms.acks ∧
      (ctx.simulate = true ∨ w'.shared.vm.codes[k.wasmVM.checksum code]? = some code) := by
  obtain ⟨addr, w₁, hsome, h₁⟩ := GoM.bind_ok_iff.mp h
  obtain ⟨hcreator, rfl⟩ := GoM.ofOption_ok_iff.mp hsome
  obtain ⟨params, w₂, hget, h₂⟩ := GoM.bind_ok_iff.mp h₁
  obtain ⟨hparams, rfl⟩ := getParams_ok hget
  obtain ⟨fallback, w₃, happlied, h₃⟩ := GoM.bind_ok_iff.mp h₂
  obtain ⟨hwith, rfl⟩ := orPanic_ok_iff.mp happlied
  obtain ⟨hallowed, h₄⟩ := permitted_ok h₃
  obtain ⟨code, w₅, hunpack, h₅⟩ := GoM.bind_ok_iff.mp h₄
  have hw₅ := (unpackCode_keeps _).of_ok hunpack
  obtain ⟨sum, w₆, hstored, h₆⟩ := GoM.bind_ok_iff.mp h₅
  obtain ⟨rfl, hms, hfile⟩ := storeByteCode_ok hstored
  obtain ⟨caps, w₇, hcaps, h₇⟩ := GoM.bind_ok_iff.mp h₆
  obtain rfl : w₇ = w₆ := by
    split at hcaps
    · exact (GoM.pure_ok_iff.mp hcaps).2
    · obtain ⟨report, w₈, hreport, h₈⟩ := GoM.bind_ok_iff.mp hcaps
      obtain ⟨-, rfl⟩ := orError_ok_iff.mp hreport
      exact (GoM.pure_ok_iff.mp h₈).2
  obtain ⟨codeID, w₈, hid, h₈⟩ := GoM.bind_ok_iff.mp h₇
  obtain ⟨rfl, rfl⟩ := mustAutoIncrementID_ok hid
  obtain ⟨_, w₉, hwrite, h₉⟩ := GoM.bind_ok_iff.mp h₈
  obtain rfl := writeStore_ok_iff.mp hwrite
  obtain ⟨_, w₁₀, hevents, h₁₀⟩ := GoM.bind_ok_iff.mp h₉
  obtain rfl := emitEvents_ok_iff.mp hevents
  obtain ⟨rfl, rfl⟩ := GoM.pure_ok_iff.mp h₁₀
  have hstore : w₇.ms = w₃.ms := hms.trans (congrArg Prod.fst hw₅)
  refine ⟨addr, params, fallback, code, hcreator, hparams, hwith, hallowed, ?_, ?_, ?_, hfile⟩
  · rw [hstore]
  · show WasmStore.storeCodeInfo _ _ _ = _
    rw [hstore]
  · show w₇.ms.acks = _
    rw [hstore]

theorem setAccessConfig_ok {codeID : UInt64} {caller : AccAddress} {config : AccessConfig}
    {authZ : AuthorizationPolicy} {u : Unit}
    (h : k.setAccessConfig codeID caller config authZ w = (.ok u, w')) :
    ∃ info params creator, w.ms.wasm.getCodeInfo codeID = some info ∧
      w.ms.wasm.params = some params ∧ k.codec.accAddressFromBech32 info.creator = .ok creator ∧
      authZ.canModifyCodeAccessConfig creator caller
        (config.permission.isSubset params.instantiateDefaultPermission) = true ∧
      w'.ms.wasm = w.ms.wasm.storeCodeInfo codeID { info with instantiateConfig := config } ∧
      Quiet w w' := by
  obtain ⟨info, hinfo, h₁⟩ := lookup_ok h
  obtain ⟨params, w₂, hget, h₂⟩ := GoM.bind_ok_iff.mp h₁
  obtain ⟨hparams, rfl⟩ := getParams_ok hget
  obtain ⟨creator, w₃, hparsed, h₃⟩ := GoM.bind_ok_iff.mp h₂
  obtain ⟨hdecode, rfl⟩ := orPanic_ok_iff.mp hparsed
  obtain ⟨_, w₄, hasked, h₄⟩ := GoM.bind_ok_iff.mp h₃
  obtain ⟨hyes, rfl⟩ := GoM.ensure_ok_iff.mp hasked
  obtain ⟨_, w₅, hwrite, h₅⟩ := GoM.bind_ok_iff.mp h₄
  obtain rfl := writeStore_ok_iff.mp hwrite
  obtain rfl := emitEvents_ok_iff.mp h₅
  refine ⟨info, params, creator, hinfo, hparams, ?_, hyes, rfl, rfl, rfl⟩
  cases hd : k.codec.accAddressFromBech32 info.creator with
  | error e => simp [hd, Except.mapError] at hdecode
  | ok a => simpa [hd, Except.mapError] using hdecode

/-! ## Contracts -/

/-- How a new contract got its address, and what that did to the store. -/
inductive Assigned (k : Keeper ε C) (s : WasmStore) (codeID : UInt64) :
    AccAddress → WasmStore → Prop
  | classic : Assigned k s codeID
      (k.buildContractAddressClassic codeID (s.peekAutoIncrementID keySequenceInstanceID))
      (s.autoIncrementID keySequenceInstanceID).2
  | predictable {checksum : Bytes} {creator : AccAddress} {salt msg : Bytes} {a : AccAddress} :
      k.buildContractAddressPredictable checksum creator salt msg = .ok a → Assigned k s codeID a s

/-- The storage of all other contracts is the same, and what is new in its own has a key. -/
structure OthersKept (contract : AccAddress) (s s' : WasmStore) : Prop where
  outside : ∀ key, ¬ contractStorePrefix contract <+: key →
    s'.contractState[key]? = s.contractState[key]?
  fresh : ∀ key, (s'.contractState[key]?).isSome → (s.contractState[key]?).isSome ∨
    ∃ own, own ≠ [] ∧ key = contractStorePrefix contract ++ own

theorem OthersKept.of_eq {contract : AccAddress} {s s' : WasmStore}
    (h : s'.contractState = s.contractState) : OthersKept contract s s' where
  outside key _ := by rw [h]
  fresh key hkey := .inl (by rwa [h] at hkey)

theorem Confined.othersKept {contract : AccAddress} (h : Confined (· = contract) w w') :
    OthersKept contract w.ms.wasm w'.ms.wasm where
  outside key hkey := h.outside key fun _ ha => ha ▸ hkey
  fresh key hkey := (h.fresh key hkey).imp_right fun ⟨_, ha, hown⟩ => ha ▸ hown

theorem Assigned.getContractInfo_eq {s s₁ : WasmStore} {codeID : UInt64} {a : AccAddress}
    (h : Assigned k s codeID a s₁) (b : AccAddress) :
    s₁.getContractInfo b = s.getContractInfo b := by
  cases h <;> rfl

theorem Assigned.contractState_eq {s s₁ : WasmStore} {codeID : UInt64} {a : AccAddress}
    (h : Assigned k s codeID a s₁) : s₁.contractState = s.contractState := by
  cases h <;> rfl

theorem generateAddress_ok {codeID : UInt64} {checksum : Bytes} {g : AddressGenerator}
    {a : AccAddress} (h : k.generateAddress codeID checksum g w = (.ok a, w')) :
    ∃ s₁, Assigned k w.ms.wasm codeID a s₁ ∧ w' = { w with ms := { w.ms with wasm := s₁ } } := by
  cases g with
  | classic =>
      obtain ⟨id, w₁, hid, h₁⟩ := GoM.bind_ok_iff.mp h
      obtain ⟨rfl, rfl⟩ := mustAutoIncrementID_ok hid
      obtain ⟨rfl, rfl⟩ := GoM.pure_ok_iff.mp h₁
      exact ⟨_, .classic, rfl⟩
  | predictable creator salt msg fixMsg =>
      obtain ⟨hbuild, rfl⟩ := orPanic_ok_iff.mp h
      exact ⟨_, .predictable hbuild, rfl⟩

theorem claimAddress_ok {codeID : UInt64} {codeInfo : CodeInfo} {creator : AccAddress}
    {deposit : Coins.CoinSet} {g : AddressGenerator} {authPolicy : AuthorizationPolicy}
    {a : AccAddress}
    (h : k.claimAddress codeID codeInfo creator deposit g authPolicy w = (.ok a, w')) :
    authPolicy.canInstantiateContract k.codec codeInfo.instantiateConfig creator = .ok true ∧
      w.ms.wasm.getContractInfo a = none ∧
      ∃ s₁, Assigned k w.ms.wasm codeID a s₁ ∧
        Confined noContract { w with ms := { w.ms with wasm := s₁ } } w' := by
  obtain ⟨hallowed, h₁⟩ := permitted_ok h
  obtain ⟨addr, w₂, haddr, h₂⟩ := GoM.bind_ok_iff.mp h₁
  obtain ⟨s₁, hassigned, rfl⟩ := generateAddress_ok haddr
  obtain ⟨existing, w₃, hread, h₃⟩ := GoM.bind_ok_iff.mp h₂
  obtain ⟨rfl, rfl⟩ := readStore_ok_iff.mp hread
  obtain ⟨_, w₄, hcheck, h₄⟩ := GoM.bind_ok_iff.mp h₃
  obtain ⟨hnew, rfl⟩ := GoM.ensure_ok_iff.mp hcheck
  obtain ⟨_, w₅, hacct, h₅⟩ := GoM.bind_ok_iff.mp h₄
  obtain ⟨_, w₆, hfunds, h₆⟩ := GoM.bind_ok_iff.mp h₅
  obtain ⟨rfl, rfl⟩ := GoM.pure_ok_iff.mp h₆
  refine ⟨hallowed, (hassigned.getContractInfo_eq _).symm.trans
    (WasmStore.getContractInfo_eq_none hnew), s₁, hassigned, ?_⟩
  exact ((claimAccount_stays k _).confined hacct).trans
    ((transferFunds_stays k _ _ _).confined hfunds)

/-- What is written does not depend on the storage of contracts. -/
theorem WasmStore.registerContract_registry {s t : WasmStore} (h : s.registry = t.registry)
    (creator a : AccAddress) (info : ContractInfo) (e : ContractCodeHistoryEntry) :
    (s.registerContract creator a info e).registry =
      (t.registerContract creator a info e).registry := by
  have hcomm : ∀ s : WasmStore, (s.registerContract creator a info e).registry =
      s.registry.registerContract creator a info e := fun _ => rfl
  rw [hcomm, hcomm, h]

theorem WasmStore.registerMigration_registry {s t : WasmStore} (h : s.registry = t.registry)
    (a : AccAddress) (info : ContractInfo) (last e : ContractCodeHistoryEntry) :
    (s.registerMigration a info last e).registry =
      (t.registerMigration a info last e).registry := by
  have hcomm : ∀ s : WasmStore, (s.registerMigration a info last e).registry =
      s.registry.registerMigration a info last e := fun _ => rfl
  rw [hcomm, hcomm, h]

/-- The contract that `instantiate` stores at an address. -/
structure IsNewContract (k : Keeper ε C) (codeID : UInt64) (codeHash : Bytes) (creator : AccAddress)
    (admin : Option AccAddress) (label : String) (ctx : SdkContext) (a : AccAddress)
    (info : ContractInfo) : Prop where
  codeID : info.codeID = codeID
  creator : info.creator = k.codec.string creator
  admin : info.admin = k.codec.stringOf admin
  label : info.label = label
  created : newAbsoluteTxPosition ctx = .ok info.created
  ibcPortID : ∃ report, k.wasmVM.analyze codeHash = .ok report ∧
    info.ibcPortID = if report.hasIBCEntryPoints then portIDForContract k.codec a else ""
  ibc2PortID : info.ibc2PortID = portIDForContractV2 k.codec k.hrp a

theorem analyzeCode_ok {failed : Registered} {checksum : Bytes} {report : AnalysisReport}
    (h : k.analyzeCode failed checksum w = (.ok report, w')) :
    k.wasmVM.analyze checksum = .ok report ∧ w' = w := by
  obtain ⟨hreport, hw⟩ := orError_ok_iff.mp h
  refine ⟨?_, hw⟩
  cases ha : k.wasmVM.analyze checksum with
  | error e => simp [ha, Except.mapError] at hreport
  | ok r => simpa [ha, Except.mapError] using hreport

theorem newInstance_ok {ctx : SdkContext} {codeID : UInt64} {creator admin : Option AccAddress}
    {initMsg : Bytes} {label : String} {deposit : Coins.CoinSet} {g : AddressGenerator}
    {authPolicy : AuthorizationPolicy} {a : AccAddress} {info : ContractInfo}
    {res : ContractResponse C}
    (h : k.newInstance ctx codeID creator admin initMsg label deposit g authPolicy w =
      (.ok (a, info, res), w')) :
    ∃ addr codeInfo s₁, creator = some addr ∧ w.ms.wasm.getCodeInfo codeID = some codeInfo ∧
      authPolicy.canInstantiateContract k.codec codeInfo.instantiateConfig addr = .ok true ∧
      w.ms.wasm.getContractInfo a = none ∧ Assigned k w.ms.wasm codeID a s₁ ∧
      IsNewContract k codeID codeInfo.codeHash addr admin label ctx a info ∧
      w'.ms.wasm.registry =
        (s₁.registerContract addr a info (info.initialHistory initMsg)).registry ∧
      OthersKept a w.ms.wasm w'.ms.wasm ∧ Quiet w w' := by
  obtain ⟨addr, w₁, hsome, h₁⟩ := GoM.bind_ok_iff.mp h
  obtain ⟨hcreator, rfl⟩ := GoM.ofOption_ok_iff.mp hsome
  obtain ⟨codeInfo, hcode, h₂⟩ := lookup_ok h₁
  obtain ⟨⟨contract, out⟩, w₃, hcall, h₃⟩ := GoM.bind_ok_iff.mp h₂
  obtain ⟨w₄, w₅, hfirst, hclaim, hrun⟩ := enter_ok k hcall
  obtain ⟨hallowed, hnew, s₁, hassigned, hclaimed⟩ := claimAddress_ok hclaim
  obtain ⟨res', w₆, hresult, h₆⟩ := GoM.bind_ok_iff.mp h₃
  have hres : Confined (· = contract) w₃ w₆ := (contractResult_stays _ _ _).confined hresult
  obtain ⟨createdAt, w₇, hposition, h₇⟩ := GoM.bind_ok_iff.mp h₆
  obtain ⟨hcreated, rfl⟩ := orPanic_ok_iff.mp hposition
  obtain ⟨report, w₈, hreport, h₈⟩ := GoM.bind_ok_iff.mp h₇
  obtain ⟨hanalyzed, rfl⟩ := analyzeCode_ok hreport
  obtain ⟨_, w₉, hwrite, h₉⟩ := GoM.bind_ok_iff.mp h₈
  obtain rfl := writeStore_ok_iff.mp hwrite
  obtain ⟨_, w₁₀, hevents, h₁₀⟩ := GoM.bind_ok_iff.mp h₉
  obtain rfl := emitEvents_ok_iff.mp hevents
  obtain ⟨hout, rfl⟩ := GoM.pure_ok_iff.mp h₁₀
  cases hout
  have hrest := (hclaimed.of_noContract.trans hrun).trans hres
  rw [hfirst.wasm_eq] at hnew hassigned
  refine ⟨addr, codeInfo, s₁, hcreator, hcode, hallowed, hnew, hassigned,
    ⟨rfl, rfl, rfl, rfl, hcreated, ⟨report, hanalyzed, rfl⟩, rfl⟩,
    WasmStore.registerContract_registry hrest.registry _ _ _ _, ?_,
    ⟨hrest.acks.trans hfirst.acks, hrest.files.trans hfirst.files⟩⟩
  obtain ⟨houtside, hfresh⟩ := hrest.othersKept
  simp only [hassigned.contractState_eq] at houtside hfresh
  exact ⟨houtside, hfresh⟩

theorem migrateResult_stays {A : AccAddress → Prop}
    (out : Except VMStop (Option (Except String (ContractResponse C)))) :
    Stays A (Keeper.migrateResult out : KeeperM ε _) := by
  unfold Keeper.migrateResult
  split
  · exact Stays.failWith _
  · exact Stays.failWith _
  · exact Stays.ite (Stays.pure _) (Stays.failWith _)
  · exact Stays.pure _

theorem callMigrateEntrypoint_stays (ctx : SdkContext) (a : AccAddress) (checksum msg : Bytes)
    (codeID : UInt64) (sender : AccAddress) (oldVersion : Option UInt64) :
    Stays (· = a) (k.callMigrateEntrypoint ctx a checksum msg codeID sender oldVersion) :=
  (enter_stays k (Stays.pure _) pure_result).bind fun _ => migrateResult_stays _

/-- What `migrate` to a code makes of the contract at an address. -/
structure IsMigrated (k : Keeper ε C) (codeID : UInt64) (codeHash : Bytes) (a : AccAddress)
    (old info : ContractInfo) : Prop where
  codeID : info.codeID = codeID
  creator : info.creator = old.creator
  admin : info.admin = old.admin
  label : info.label = old.label
  created : info.created = old.created
  ext : info.ext = old.ext
  ibcPortID : ∃ report, k.wasmVM.analyze codeHash = .ok report ∧
    (report.hasIBCEntryPoints = true ∨ old.ibcPortID = "") ∧
    info.ibcPortID = if report.hasIBCEntryPoints ∧ old.ibcPortID = "" then
      portIDForContract k.codec a else old.ibcPortID
  ibc2PortID : info.ibc2PortID = portIDForContractV2 k.codec k.hrp a

theorem migrateContract_ok {ctx : SdkContext} {a caller : AccAddress} {newCodeID : UInt64}
    {msg : Bytes} {authZ : AuthorizationPolicy} {info : ContractInfo}
    {res : Option (ContractResponse C)}
    (h : k.migrateContract ctx a caller newCodeID msg authZ w = (.ok (info, res), w')) :
    ∃ old admin codeInfo last position, w.ms.wasm.getContractInfo a = some old ∧
      old.adminAddr k.codec = .ok admin ∧ authZ.canModifyContract admin caller = true ∧
      w.ms.wasm.getCodeInfo newCodeID = some codeInfo ∧
      authZ.canInstantiateContract k.codec codeInfo.instantiateConfig caller = .ok true ∧
      w.ms.wasm.lastContractHistoryEntry a = some last ∧
      newAbsoluteTxPosition ctx = .ok position ∧
      IsMigrated k newCodeID codeInfo.codeHash a old info ∧
      w'.ms.wasm.registry = (w.ms.wasm.registerMigration a info last
        ⟨.migrate, newCodeID, position, msg⟩).registry ∧
      OthersKept a w.ms.wasm w'.ms.wasm ∧ Quiet w w' := by
  obtain ⟨old, hold, h₁⟩ := lookup_ok h
  obtain ⟨admin, w₂, hdecoded, h₂⟩ := GoM.bind_ok_iff.mp h₁
  obtain ⟨hadmin, rfl⟩ := orPanic_ok_iff.mp hdecoded
  obtain ⟨_, w₃, hasked, h₃⟩ := GoM.bind_ok_iff.mp h₂
  obtain ⟨hmodify, rfl⟩ := GoM.ensure_ok_iff.mp hasked
  obtain ⟨codeInfo, hcode, h₄⟩ := lookup_ok h₃
  obtain ⟨hallowed, h₅⟩ := permitted_ok h₄
  obtain ⟨report, w₆, hreport, h₆⟩ := GoM.bind_ok_iff.mp h₅
  obtain ⟨hanalyze, rfl⟩ := analyzeCode_ok hreport
  obtain ⟨_, w₇, hibc, h₇⟩ := GoM.bind_ok_iff.mp h₆
  obtain ⟨hcallbacks, rfl⟩ := GoM.ensure_ok_iff.mp hibc
  obtain ⟨_, w₈, hread, h₈⟩ := GoM.bind_ok_iff.mp h₇
  obtain ⟨rfl, rfl⟩ := readStore_ok_iff.mp hread
  obtain ⟨oldCode, w₉, hthere, h₉⟩ := GoM.bind_ok_iff.mp h₈
  obtain ⟨-, rfl⟩ := GoM.ofOptionPanic_ok_iff.mp hthere
  obtain ⟨oldReport, w₁₀, hanalyzed, h₁₀⟩ := GoM.bind_ok_iff.mp h₉
  obtain ⟨-, rfl⟩ := orError_ok_iff.mp hanalyzed
  obtain ⟨response, w₁₁, hresponse, h₁₁⟩ := GoM.bind_ok_iff.mp h₁₀
  have hrun : Confined (· = a) w₁₀ w₁₁ :=
    Stays.confined (.ite (callMigrateEntrypoint_stays _ _ _ _ _ _ _) (Stays.pure _)) hresponse
  obtain ⟨_, w₁₂, hlookup, h₁₂⟩ := GoM.bind_ok_iff.mp h₁₁
  obtain ⟨rfl, rfl⟩ := readStore_ok_iff.mp hlookup
  obtain ⟨last, w₁₃, hfound, h₁₃⟩ := GoM.bind_ok_iff.mp h₁₂
  obtain ⟨hlast, rfl⟩ := GoM.ofOptionPanic_ok_iff.mp hfound
  obtain ⟨position, w₁₄, hposition, h₁₄⟩ := GoM.bind_ok_iff.mp h₁₃
  obtain ⟨hposition', rfl⟩ := orPanic_ok_iff.mp hposition
  obtain ⟨_, w₁₅, hwrite, h₁₅⟩ := GoM.bind_ok_iff.mp h₁₄
  obtain rfl := writeStore_ok_iff.mp hwrite
  obtain ⟨_, w₁₆, hevents, h₁₆⟩ := GoM.bind_ok_iff.mp h₁₅
  obtain rfl := emitEvents_ok_iff.mp hevents
  obtain ⟨hout, rfl⟩ := GoM.pure_ok_iff.mp h₁₆
  cases hout
  refine ⟨old, admin, codeInfo, last, position, hold, hadmin, hmodify, hcode, hallowed, ?_,
    hposition', ⟨rfl, rfl, rfl, rfl, rfl, rfl, ⟨report, hanalyze, hcallbacks, rfl⟩, rfl⟩, ?_,
    ⟨hrun.othersKept.outside, hrun.othersKept.fresh⟩, ⟨hrun.acks, hrun.files⟩⟩
  · exact (hrun.read_eq (·.lastContractHistoryEntry a)).symm.trans hlast
  · exact WasmStore.registerMigration_registry hrun.registry _ _ _ _

/-! ## Settings and pins -/

theorem modifyContract_ok {a caller : AccAddress} {authZ : AuthorizationPolicy}
    {change : ContractInfo → ContractInfo} {event : Event} {u : Unit}
    (h : k.modifyContract a caller authZ change event w = (.ok u, w')) :
    ∃ old admin, w.ms.wasm.getContractInfo a = some old ∧ old.adminAddr k.codec = .ok admin ∧
      authZ.canModifyContract admin caller = true ∧
      w'.ms.wasm = w.ms.wasm.storeContractInfo a (change old) ∧ Quiet w w' := by
  obtain ⟨old, hold, h₁⟩ := lookup_ok h
  obtain ⟨admin, w₂, hdecoded, h₂⟩ := GoM.bind_ok_iff.mp h₁
  obtain ⟨hadmin, rfl⟩ := orPanic_ok_iff.mp hdecoded
  obtain ⟨_, w₃, hasked, h₃⟩ := GoM.bind_ok_iff.mp h₂
  obtain ⟨hmodify, rfl⟩ := GoM.ensure_ok_iff.mp hasked
  obtain ⟨_, w₄, hwrite, h₄⟩ := GoM.bind_ok_iff.mp h₃
  obtain rfl := writeStore_ok_iff.mp hwrite
  obtain rfl := emitEvents_ok_iff.mp h₄
  exact ⟨old, admin, hold, hadmin, hmodify, rfl, rfl, rfl⟩

theorem setContractInfoExtension_ok {a : AccAddress} {ext : Option Bytes} {u : Unit}
    (h : k.setContractInfoExtension a ext w = (.ok u, w')) :
    ∃ old packed, w.ms.wasm.getContractInfo a = some old ∧ ext.mapM k.packExtension = .ok packed ∧
      w'.ms.wasm = w.ms.wasm.storeContractInfo a { old with ext := packed } ∧ Quiet w w' := by
  obtain ⟨old, hold, h₁⟩ := lookup_ok h
  obtain ⟨packed, w₂, hpacking, h₂⟩ := GoM.bind_ok_iff.mp h₁
  obtain ⟨hpacked, rfl⟩ := orError_ok_iff.mp hpacking
  obtain rfl := writeStore_ok_iff.mp h₂
  exact ⟨old, packed, hold, hpacked, rfl, rfl, rfl⟩

theorem syncPinnedCodes_ok {checksums : List Bytes} {u : Unit}
    (h : k.syncPinnedCodes checksums w = (.ok u, w')) :
    w'.ms = w.ms ∧ w'.shared.vm.codes = w.shared.vm.codes ∧ w'.shared.vm.pinned = checksums := by
  unfold Keeper.syncPinnedCodes Keeper.syncCodes at h
  split at h <;> cases h
  exact ⟨rfl, rfl, rfl⟩

/-- The part that pinning and unpinning share: a charge, and the VM told of the codes to keep. -/
theorem synced_ok {cost : UInt64} {descriptor : String}
    {f : WasmStore → Except GoError (List Bytes)} {g : List Bytes → List Bytes}
    {change : WasmStore → WasmStore} {evts : List Event} {u : Unit} (h : (do
      consumeGas cost descriptor
      let collected ← readStore f
      let checksums ← orError collected
      k.syncPinnedCodes (g checksums)
      writeStore change
      emitEvents evts : KeeperM ε Unit) w = (.ok u, w')) :
    w'.ms.wasm = change w.ms.wasm ∧ Quiet w w' ∧
      ∃ checksums, f w.ms.wasm = .ok checksums ∧ w'.shared.vm.pinned = g checksums := by
  obtain ⟨_, w₁, hcharge, h₁⟩ := GoM.bind_ok_iff.mp h
  have hw₁ := (consumeGas_keeps _ _).of_ok hcharge
  simp only [Prod.mk.injEq] at hw₁
  obtain ⟨_, w₂, hread, h₂⟩ := GoM.bind_ok_iff.mp h₁
  obtain ⟨rfl, rfl⟩ := readStore_ok_iff.mp hread
  obtain ⟨checksums, w₃, hcollect, h₃⟩ := GoM.bind_ok_iff.mp h₂
  obtain ⟨hchecksums, rfl⟩ := orError_ok_iff.mp hcollect
  obtain ⟨_, w₄, hsync, h₄⟩ := GoM.bind_ok_iff.mp h₃
  obtain ⟨hms, hfiles, hpinned⟩ := syncPinnedCodes_ok hsync
  obtain ⟨_, w₅, hwrite, h₅⟩ := GoM.bind_ok_iff.mp h₄
  obtain rfl := writeStore_ok_iff.mp hwrite
  obtain rfl := emitEvents_ok_iff.mp h₅
  refine ⟨?_, ⟨?_, ?_⟩, checksums, ?_, hpinned⟩
  · show change w₄.ms.wasm = _
    rw [hms, hw₁.1]
  · show w₄.ms.acks = _
    rw [hms, hw₁.1]
  · rw [← hw₁.2]
    exact hfiles
  · rw [← hw₁.1]
    exact hchecksums

theorem pinCode_ok {codeID : UInt64} {u : Unit} (h : k.pinCode codeID w = (.ok u, w')) :
    ∃ info checksums, w.ms.wasm.getCodeInfo codeID = some info ∧
      w'.ms.wasm = { w.ms.wasm with
        pinned := w.ms.wasm.pinned.insert (pinnedCodeIndexPrefix codeID) () } ∧
      Quiet w w' ∧ w.ms.wasm.collectPinnedChecksums none = .ok checksums ∧
      w'.shared.vm.pinned = checksums ++ [info.codeHash] := by
  obtain ⟨info, hinfo, h₁⟩ := lookup_ok h
  obtain ⟨hstore, hquiet, checksums, hcollect, hpinned⟩ :=
    synced_ok (g := (· ++ [info.codeHash])) h₁
  exact ⟨info, checksums, hinfo, hstore, hquiet, hcollect, hpinned⟩

theorem unpinCode_ok {codeID : UInt64} {u : Unit} (h : k.unpinCode codeID w = (.ok u, w')) :
    ∃ checksums, w'.ms.wasm = { w.ms.wasm with
        pinned := w.ms.wasm.pinned.erase (pinnedCodeIndexPrefix codeID) } ∧
      Quiet w w' ∧ w.ms.wasm.collectPinnedChecksums (some codeID) = .ok checksums ∧
      w'.shared.vm.pinned = checksums := by
  obtain ⟨info, hinfo, h₁⟩ := lookup_ok h
  obtain ⟨hstore, hquiet, checksums, hcollect, hpinned⟩ := synced_ok (g := id) h₁
  exact ⟨checksums, hstore, hquiet, hcollect, hpinned⟩

end Wasmd
