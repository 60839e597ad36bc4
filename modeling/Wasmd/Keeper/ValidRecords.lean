import Wasmd.Keeper.AccessControl
import Wasmd.Keeper.GenesisRoundTrip

/-!
# The records of the store are valid

What messages ask for is checked before it is stored, also when a contract sends them, so every
record of the store passes the check of the genesis state.

* `RecordsValid` — the invariant.  `Served.valid` — serving a message keeps it.
* `ValidatedCall` — a call that hands valid data to the keeper; a message need not be valid.
* `Reached.recordsValid` — the invariant over runs.
* `exported_genesis_valid_iff` — **an export is accepted by `ValidateGenesis`** unless a code is
  empty or too large for a proposal, or the parameters are invalid.
-/

namespace Wasmd

open ByteStore KVStore Effects Gas

variable {ε C : Type} {k : Keeper ε C} {m : Messenger ε C} {lib : MsgLib} {codec : AddressCodec}
  {s s' : WasmStore}

/-! ## Valid records -/

/-- The record of a contract is valid. -/
structure ContractValid (lib : MsgLib) (codec : AddressCodec) (s : WasmStore)
    (info : ContractInfo) : Prop where
  code : (s.getCodeInfo info.codeID).isSome
  creator : ∃ a, codec.accAddressFromBech32 info.creator = .ok a
  admin : info.admin = "" ∨ ∃ a, codec.accAddressFromBech32 info.admin = .ok a
  label : lib.validateLabel info.label = .ok ()
  ext : info.ext.bind lib.extensionError = none

/-- An entry of a history is valid. -/
structure EntryValid (lib : MsgLib) (s : WasmStore) (e : ContractCodeHistoryEntry) : Prop where
  code : (s.getCodeInfo e.codeID).isSome
  operation : e.operation ∈ [.genesis, .init, .migrate]
  msg : lib.jsonValid e.msg = true

/-- **Every record is valid**, and every contract has an entry in its history. -/
structure RecordsValid (lib : MsgLib) (codec : AddressCodec) (s : WasmStore) : Prop where
  codes : ∀ id info, s.getCodeInfo id = some info → info.validateBasic codec = .ok ()
  contracts : ∀ a info, s.getContractInfo a = some info → ContractValid lib codec s info
  history : ∀ (key : Bytes) e, s.history[key]? = some e → EntryValid lib s e
  recorded : ∀ a, (s.getContractInfo a).isSome →
    ∃ pos : UInt64, (s.history[contractCodeHistoryElementKey a pos]?).isSome

theorem ContractValid.mono {info : ContractInfo} (h : ContractValid lib codec s info)
    (hcodes : ∀ id, (s.getCodeInfo id).isSome → (s'.getCodeInfo id).isSome) :
    ContractValid lib codec s' info :=
  { h with code := hcodes _ h.code }

theorem EntryValid.mono {e : ContractCodeHistoryEntry} (h : EntryValid lib s e)
    (hcodes : ∀ id, (s.getCodeInfo id).isSome → (s'.getCodeInfo id).isSome) : EntryValid lib s' e :=
  { h with code := hcodes _ h.code }

namespace RecordsValid

/-- The three families are all that counts. -/
theorem congr (h : RecordsValid lib codec s) (hcodes : s'.codes = s.codes)
    (hcontracts : s'.contracts = s.contracts) (hhistory : s'.history = s.history) :
    RecordsValid lib codec s' := by
  have hcode : s'.getCodeInfo = s.getCodeInfo := by
    unfold WasmStore.getCodeInfo
    rw [hcodes]
  have hcontract : s'.getContractInfo = s.getContractInfo := by
    unfold WasmStore.getContractInfo
    rw [hcontracts]
  have hstays : ∀ id, (s.getCodeInfo id).isSome → (s'.getCodeInfo id).isSome := by
    intro id hid
    rwa [hcode]
  refine ⟨fun id info hinfo => ?_, fun a info hinfo => ?_, fun key e he => ?_, fun a ha => ?_⟩
  · rw [hcode] at hinfo
    exact h.codes id info hinfo
  · rw [hcontract] at hinfo
    exact (h.contracts a info hinfo).mono hstays
  · rw [hhistory] at he
    exact (h.history key e he).mono hstays
  · rw [hcontract] at ha
    rw [hhistory]
    exact h.recorded a ha

theorem of_registry (h : RecordsValid lib codec s) (heq : s'.registry = s.registry) :
    RecordsValid lib codec s' := by
  refine h.congr ?_ ?_ ?_
  · exact congrArg (·.codes) heq
  · exact congrArg (·.contracts) heq
  · exact congrArg (·.history) heq

/-- A valid code is stored. -/
theorem storeCodeInfo (h : RecordsValid lib codec s) {codeID : UInt64} {info : CodeInfo}
    (hinfo : info.validateBasic codec = .ok ()) :
    RecordsValid lib codec (s.storeCodeInfo codeID info) := by
  refine ⟨fun id old hold => ?_,
    fun a old hold => (h.contracts a old hold).mono fun _ hid => isSome_storeCodeInfo hid,
    fun key e he => (h.history key e he).mono fun _ hid => isSome_storeCodeInfo hid, h.recorded⟩
  by_cases heq : id = codeID
  · subst heq
    rw [WasmStore.getCodeInfo_storeCodeInfo_self] at hold
    exact Option.some.inj hold ▸ hinfo
  · rw [WasmStore.getCodeInfo_storeCodeInfo_of_ne _ _ heq] at hold
    exact h.codes id old hold

/-- The record of a contract with a history is written. -/
theorem storeContractInfo (h : RecordsValid lib codec s) {a : AccAddress} {info : ContractInfo}
    (hinfo : ContractValid lib codec s info)
    (hrecorded : ∃ pos : UInt64, (s.history[contractCodeHistoryElementKey a pos]?).isSome) :
    RecordsValid lib codec (s.storeContractInfo a info) := by
  refine ⟨h.codes, fun b old hold => ?_, fun key e he => (h.history key e he).mono fun _ hid => hid,
    fun b hb => ?_⟩
  · by_cases heq : b = a
    · subst heq
      rw [WasmStore.getContractInfo_storeContractInfo_self] at hold
      exact Option.some.inj hold ▸ hinfo.mono fun _ hid => hid
    · rw [WasmStore.getContractInfo_storeContractInfo_of_ne _ _ heq] at hold
      exact (h.contracts b old hold).mono fun _ hid => hid
  · by_cases heq : b = a
    · subst heq
      exact hrecorded
    · rw [WasmStore.getContractInfo_storeContractInfo_of_ne _ _ heq] at hb
      exact h.recorded b hb

/-- An entry is appended to a history. -/
theorem appendEntry (h : RecordsValid lib codec s) {a : AccAddress} {e : ContractCodeHistoryEntry}
    (he : EntryValid lib s e) : RecordsValid lib codec (s.appendToContractHistory a [e]) := by
  refine ⟨h.codes, fun b info hinfo => (h.contracts b info hinfo).mono fun _ hid => hid,
    fun key old hold => ?_, fun b hb => ?_⟩
  · replace hold : (s.history.insert
        (contractCodeHistoryElementKey a (s.lastHistoryPosition a + 1)) e)[key]? = some old := hold
    by_cases heq : key = contractCodeHistoryElementKey a (s.lastHistoryPosition a + 1)
    · rw [heq, getElem?_insert_self] at hold
      exact Option.some.inj hold ▸ he.mono fun _ hid => hid
    · rw [getElem?_insert_of_ne _ _ heq] at hold
      exact (h.history key old hold).mono fun _ hid => hid
  · obtain ⟨pos, hpos⟩ := h.recorded b hb
    exact ⟨pos, isSome_insert hpos⟩

/-- An entry is appended to the history of a contract, and the record is written. -/
theorem appendAndStore (h : RecordsValid lib codec s) {a : AccAddress} {info : ContractInfo}
    {e : ContractCodeHistoryEntry} (he : EntryValid lib s e)
    (hinfo : ContractValid lib codec s info) :
    RecordsValid lib codec ((s.appendToContractHistory a [e]).storeContractInfo a info) := by
  refine (h.appendEntry he).storeContractInfo (hinfo.mono fun _ hid => hid)
    ⟨s.lastHistoryPosition a + 1, ?_⟩
  show ((s.history.insert (contractCodeHistoryElementKey a (s.lastHistoryPosition a + 1)) e)[
    contractCodeHistoryElementKey a (s.lastHistoryPosition a + 1)]?).isSome
  rw [getElem?_insert_self]
  rfl

end RecordsValid

/-! ## What is served -/

/-- The chain default for an account is a valid configuration. -/
theorem AccessType.withAddrs_valid {d : AccessType} {creator : AccAddress} {config : AccessConfig}
    (h : d.withAddrs codec [creator] = .ok config) : config.validateBasic codec = .ok () := by
  rcases AccessType.withAddrs_singleton_ok_iff.mp h with ⟨rfl, rfl⟩ | ⟨rfl, rfl⟩ | ⟨rfl, rfl⟩
  · rfl
  · rfl
  · simp [AccessConfig.validateBasic, validateBech32Addresses, validateBech32From,
      codec.decode_string, maxAddressCount, Except.mapError]

/-- The text of an optional address. -/
theorem stringOf_valid (admin : Option AccAddress) :
    codec.stringOf admin = "" ∨ ∃ b, codec.accAddressFromBech32 (codec.stringOf admin) = .ok b := by
  cases admin with
  | none => exact .inl rfl
  | some b => exact .inr ⟨b, codec.decode_string b⟩

section Operations

variable {w w' : World (Multistore ε) Shared}

theorem create_valid (hsum : ∀ code, k.wasmVM.checksum code ≠ []) {ctx : SdkContext}
    {creator : Option AccAddress} {code : Bytes} {access : Option AccessConfig}
    {policy : AuthorizationPolicy} {out : UInt64 × Bytes}
    (haccess : validatePermission k.codec access = .ok ())
    (h : k.create ctx creator code access policy w = (.ok out, w'))
    (hw : RecordsValid lib k.codec w.ms.wasm) : RecordsValid lib k.codec w'.ms.wasm := by
  obtain ⟨addr, params, fallback, unpacked, -, -, hfallback, -, -, hstore, -⟩ := create_ok h
  have hconfig : (access.getD fallback).validateBasic k.codec = .ok () := by
    cases access with
    | none => exact AccessType.withAddrs_valid hfallback
    | some config => exact except_mapError_ok_iff.mp haccess
  have hnext : RecordsValid lib k.codec (w.ms.wasm.autoIncrementID keySequenceCodeID).2 :=
    hw.congr rfl rfl rfl
  rw [hstore]
  refine hnext.storeCodeInfo ?_
  exact CodeInfo.validateBasic_ok_iff.mpr ⟨hsum _, ⟨addr, k.codec.decode_string addr⟩, hconfig⟩

/-- A new contract has no extension. -/
theorem newInstance_ext {ctx : SdkContext} {codeID : UInt64} {creator admin : Option AccAddress}
    {initMsg : Bytes} {label : String} {deposit : Coins.CoinSet} {g : AddressGenerator}
    {policy : AuthorizationPolicy} {a : AccAddress} {info : ContractInfo} {res : ContractResponse C}
    (h : k.newInstance ctx codeID creator admin initMsg label deposit g policy w =
      (.ok (a, info, res), w')) : info.ext = none := by
  obtain ⟨_, _, -, h₁⟩ := GoM.bind_ok_iff.mp h
  obtain ⟨_, -, h₂⟩ := lookup_ok h₁
  obtain ⟨_, _, -, h₃⟩ := GoM.bind_ok_iff.mp h₂
  obtain ⟨_, _, -, h₄⟩ := GoM.bind_ok_iff.mp h₃
  obtain ⟨_, _, -, h₅⟩ := GoM.bind_ok_iff.mp h₄
  obtain ⟨_, _, -, h₆⟩ := GoM.bind_ok_iff.mp h₅
  obtain ⟨_, _, -, h₇⟩ := GoM.bind_ok_iff.mp h₆
  obtain ⟨_, _, -, h₈⟩ := GoM.bind_ok_iff.mp h₇
  obtain ⟨hout, -⟩ := GoM.pure_ok_iff.mp h₈
  cases hout
  rfl

theorem newInstance_valid {ctx : SdkContext} {codeID : UInt64} {creator admin : Option AccAddress}
    {initMsg : Bytes} {label : String} {deposit : Coins.CoinSet} {g : AddressGenerator}
    {policy : AuthorizationPolicy} {out : AccAddress × ContractInfo × ContractResponse C}
    (hlabel : lib.validateLabel label = .ok ()) (hinit : lib.jsonValid initMsg = true)
    (h : k.newInstance ctx codeID creator admin initMsg label deposit g policy w = (.ok out, w'))
    (hw : RecordsValid lib k.codec w.ms.wasm) : RecordsValid lib k.codec w'.ms.wasm := by
  obtain ⟨contract, info, res⟩ := out
  obtain ⟨addr, codeInfo, s₁, -, hcode, -, -, hassigned, hinfo, hregistry, -⟩ := newInstance_ok h
  have hs₁ : RecordsValid lib k.codec s₁ := by
    cases hassigned with
    | classic => exact hw.congr rfl rfl rfl
    | predictable => exact hw
  have hstored : (s₁.getCodeInfo codeID).isSome := by
    cases hassigned with
    | classic => exact Option.isSome_of_eq_some hcode
    | predictable => exact Option.isSome_of_eq_some hcode
  have hentry : EntryValid lib s₁ (info.initialHistory initMsg) := by
    refine ⟨?_, List.mem_cons_of_mem _ (List.mem_cons_self ..), hinit⟩
    show (s₁.getCodeInfo info.codeID).isSome
    rw [hinfo.codeID]
    exact hstored
  have hcontract : ContractValid lib k.codec s₁ info := by
    refine ⟨?_, ⟨addr, ?_⟩, ?_, ?_, ?_⟩
    · rw [hinfo.codeID]
      exact hstored
    · rw [hinfo.creator, k.codec.decode_string]
    · rw [hinfo.admin]
      exact stringOf_valid admin
    · rwa [hinfo.label]
    · rw [newInstance_ext h]
      rfl
  have hindexed : RecordsValid lib k.codec
      ((s₁.addToContractCodeSecondaryIndex contract (info.initialHistory initMsg)
        ).addToContractCreatorSecondaryIndex addr (info.initialHistory initMsg).updated contract) :=
    hs₁.congr rfl rfl rfl
  exact (hindexed.appendAndStore (hentry.mono fun _ hid => hid)
    (hcontract.mono fun _ hid => hid)).of_registry hregistry

theorem migrateContract_valid {ctx : SdkContext} {contract caller : AccAddress} {codeID : UInt64}
    {msg : Bytes} {policy : AuthorizationPolicy} {out : ContractInfo × Option (ContractResponse C)}
    (hmsg : lib.jsonValid msg = true)
    (h : k.migrateContract ctx contract caller codeID msg policy w = (.ok out, w'))
    (hw : RecordsValid lib k.codec w.ms.wasm) : RecordsValid lib k.codec w'.ms.wasm := by
  obtain ⟨info, res⟩ := out
  obtain ⟨old, admin, codeInfo, last, position, hold, -, -, hcode, -, -, -, hinfo,
      hregistry, -, -⟩ :=
    migrateContract_ok h
  have hstored : (w.ms.wasm.getCodeInfo codeID).isSome := Option.isSome_of_eq_some hcode
  have hcontract := hw.contracts contract old hold
  have hentry : EntryValid lib w.ms.wasm ⟨.migrate, codeID, position, msg⟩ :=
    ⟨hstored, by simp, hmsg⟩
  have hmigrated : ContractValid lib k.codec w.ms.wasm info := by
    refine ⟨?_, ?_, ?_, ?_, ?_⟩
    · rw [hinfo.codeID]
      exact hstored
    · rw [hinfo.creator]
      exact hcontract.creator
    · rw [hinfo.admin]
      exact hcontract.admin
    · rw [hinfo.label]
      exact hcontract.label
    · rw [hinfo.ext]
      exact hcontract.ext
  -- the index is written between the two, and does not count
  have hremoved : RecordsValid lib k.codec
      (w.ms.wasm.removeFromContractCodeSecondaryIndex contract last) := hw.congr rfl rfl rfl
  have happended := hremoved.appendAndStore (a := contract) (hentry.mono fun _ hid => hid)
    (hmigrated.mono fun _ hid => hid)
  have hmoved : RecordsValid lib k.codec (w.ms.wasm.registerMigration contract info last
      ⟨.migrate, codeID, position, msg⟩) := happended.congr rfl rfl rfl
  exact hmoved.of_registry hregistry

theorem setContractAdmin_valid {contract caller : AccAddress} {newAdmin : Option AccAddress}
    {policy : AuthorizationPolicy} {u : Unit}
    (h : k.setContractAdmin contract caller newAdmin policy w = (.ok u, w'))
    (hw : RecordsValid lib k.codec w.ms.wasm) : RecordsValid lib k.codec w'.ms.wasm := by
  obtain ⟨old, admin, hold, -, -, hstore, -⟩ := modifyContract_ok h
  rw [hstore]
  exact hw.storeContractInfo
    { hw.contracts contract old hold with admin := stringOf_valid newAdmin }
    (hw.recorded contract (Option.isSome_of_eq_some hold))

theorem setContractLabel_valid {contract caller : AccAddress} {newLabel : String}
    {policy : AuthorizationPolicy} {u : Unit} (hlabel : lib.validateLabel newLabel = .ok ())
    (h : k.setContractLabel contract caller newLabel policy w = (.ok u, w'))
    (hw : RecordsValid lib k.codec w.ms.wasm) : RecordsValid lib k.codec w'.ms.wasm := by
  obtain ⟨old, admin, hold, -, -, hstore, -⟩ := modifyContract_ok h
  rw [hstore]
  exact hw.storeContractInfo { hw.contracts contract old hold with label := hlabel }
    (hw.recorded contract (Option.isSome_of_eq_some hold))

theorem setContractInfoExtension_valid {contract : AccAddress} {ext : Option Bytes} {u : Unit}
    (hext : ∀ packed, ext.mapM k.packExtension = .ok packed → packed.bind lib.extensionError = none)
    (h : k.setContractInfoExtension contract ext w = (.ok u, w'))
    (hw : RecordsValid lib k.codec w.ms.wasm) : RecordsValid lib k.codec w'.ms.wasm := by
  obtain ⟨old, packed, hold, hpacked, hstore, -⟩ := setContractInfoExtension_ok h
  rw [hstore]
  exact hw.storeContractInfo { hw.contracts contract old hold with ext := hext packed hpacked }
    (hw.recorded contract (Option.isSome_of_eq_some hold))

theorem setAccessConfig_valid {codeID : UInt64} {caller : AccAddress} {config : AccessConfig}
    {policy : AuthorizationPolicy} {u : Unit} (hconfig : config.validateBasic k.codec = .ok ())
    (h : k.setAccessConfig codeID caller config policy w = (.ok u, w'))
    (hw : RecordsValid lib k.codec w.ms.wasm) : RecordsValid lib k.codec w'.ms.wasm := by
  obtain ⟨info, params, creator, hinfo, -, -, -, hstore, -⟩ := setAccessConfig_ok h
  obtain ⟨hhash, hcreator, -⟩ := CodeInfo.validateBasic_ok_iff.mp (hw.codes codeID info hinfo)
  rw [hstore]
  exact hw.storeCodeInfo (CodeInfo.validateBasic_ok_iff.mpr ⟨hhash, hcreator, hconfig⟩)

theorem pinCode_valid {codeID : UInt64} {u : Unit} (h : k.pinCode codeID w = (.ok u, w'))
    (hw : RecordsValid lib k.codec w.ms.wasm) : RecordsValid lib k.codec w'.ms.wasm := by
  obtain ⟨info, checksums, -, hstore, -⟩ := pinCode_ok h
  rw [hstore]
  exact hw.congr rfl rfl rfl

theorem unpinCode_valid {codeID : UInt64} {u : Unit} (h : k.unpinCode codeID w = (.ok u, w'))
    (hw : RecordsValid lib k.codec w.ms.wasm) : RecordsValid lib k.codec w'.ms.wasm := by
  obtain ⟨checksums, hstore, -⟩ := unpinCode_ok h
  rw [hstore]
  exact hw.congr rfl rfl rfl

theorem setParams_valid {params : Params} {u : Unit}
    (h : (setParams params : KeeperM ε Unit) w = (.ok u, w'))
    (hw : RecordsValid lib k.codec w.ms.wasm) : RecordsValid lib k.codec w'.ms.wasm := by
  obtain rfl := writeStore_ok_iff.mp h
  exact hw.congr rfl rfl rfl

/-- **What is served keeps the records valid.** -/
theorem Served.valid (hsum : ∀ code, k.wasmVM.checksum code ≠ []) {α : Type} {ctx : SdkContext}
    {msg : WasmMsg} {x : KeeperM ε α} {a : α} (hserved : Served k lib ctx msg x)
    (h : x w = (.ok a, w')) (hw : RecordsValid lib k.codec w.ms.wasm) :
    RecordsValid lib k.codec w'.ms.wasm := by
  cases hserved with
  | create sender code access hsender haccess => exact create_valid hsum haccess h hw
  | newInstance sender admin codeID label initMsg deposit g hsender hlabel hinit =>
      exact newInstance_valid hlabel hinit h hw
  | migrateContract sender contract codeID payload hsender hpayload =>
      exact migrateContract_valid hpayload h hw
  | setContractAdmin => exact setContractAdmin_valid h hw
  | setContractLabel sender contract newLabel hsender hlabel =>
      exact setContractLabel_valid hlabel h hw
  | setAccessConfig sender codeID config hsender hconfig => exact setAccessConfig_valid hconfig h hw
  | setParams => exact setParams_valid h hw
  | editUploadAddresses =>
      obtain ⟨params, w₁, hget, h₁⟩ := GoM.bind_ok_iff.mp h
      obtain ⟨-, rfl⟩ := getParams_ok hget
      obtain ⟨_, w₂, hcheck, h₂⟩ := GoM.bind_ok_iff.mp h₁
      obtain ⟨-, rfl⟩ := GoM.ensure_ok_iff.mp hcheck
      exact setParams_valid h₂ hw
  | pinCodes codeIDs =>
      exact GoM.forEach_invariant (P := fun w => RecordsValid lib k.codec w.ms.wasm) codeIDs
        (fun _ _ _ _ _ hpin hw => pinCode_valid hpin hw) h hw
  | unpinCodes codeIDs =>
      exact GoM.forEach_invariant (P := fun w => RecordsValid lib k.codec w.ms.wasm) codeIDs
        (fun _ _ _ _ _ hunpin hw => unpinCode_valid hunpin hw) h hw

end Operations

/-! ## Runs -/

/-- The relation that a call keeps. -/
def KeepsRecords (lib : MsgLib) (codec : AddressCodec) (s s' : WasmStore) : Prop :=
  RecordsValid lib codec s → RecordsValid lib codec s'

instance keepsRecords_tracks (lib : MsgLib) (codec : AddressCodec) :
    Tracks (KeepsRecords lib codec) where
  registry heq h := h.of_registry heq
  asyncAcks _ _ h := h.congr rfl rfl rfl
  trans h h' hs := h' (h hs)

/-- What is asked of the parts of such a run. -/
abbrev validConduct (k : Keeper ε C) (lib : MsgLib) :
    Conduct (Multistore ε) Shared SdkContext C Guarded :=
  storeConduct (KeepsRecords lib k.codec) (fun _ _ => True) (fun _ _ => True)

/-- A call that hands valid data to the keeper. -/
def ValidatedCall (k : Keeper ε C) (lib : MsgLib) : KeeperCall → Prop
  | .create _ _ _ access _ => validatePermission k.codec access = .ok ()
  | .setContractLabel _ _ newLabel _ => lib.validateLabel newLabel = .ok ()
  | .setAccessConfig _ _ config _ => config.validateBasic k.codec = .ok ()
  | .setContractInfoExtension _ ext =>
      ∀ packed, ext.mapM k.packExtension = .ok packed → packed.bind lib.extensionError = none
  | .top (.entry (.instantiate _ _ _ _ initMsg label _ _ _)) =>
      lib.validateLabel label = .ok () ∧ lib.jsonValid initMsg = true
  | .top (.entry (.migrate _ _ _ _ msg _)) => lib.jsonValid msg = true
  | .setContractAdmin .. | .pinCode _ | .unpinCode _ | .top _ => True

section Runs

variable (hsum : ∀ code, k.wasmVM.checksum code ≠ []) {w w' : World (Multistore ε) Shared}
include hsum

/-- **The messages of contracts keep the records valid.** -/
theorem chain_valid : (k.chain m).Sound (validConduct k m.lib) :=
  chain_served (fun _ _ _ _ _ _ _ _ _ hserved _ _ hx hw => hserved.valid hsum hx hw)
    (fun _ _ _ _ _ _ _ _ hx => dispatchIBC_tracks hx) (fun _ _ _ _ _ _ _ => trivial)
    (fun _ _ _ _ _ _ _ _ _ => trivial) fun _ _ _ _ _ _ _ => trivial

/-- A script that asks for nothing else keeps the records valid. -/
theorem Script.Sound.valid {α : Type} {s : KeeperScript ε C α} {a : α}
    (hs : s.Sound (validConduct k m.lib) w) (h : s.run (k.handler m) w = (.ok a, w')) :
    KeepsRecords m.lib k.codec w.ms.wasm w'.ms.wasm :=
  Script.Sound.run (D := validConduct k m.lib) storeConduct_plain.toLawful
    (fun r w hr => storeConduct_plain.toLawful.handlerAt (chain_valid hsum) _ r w hr) hs a w' h

omit hsum in
/-- An entry point. -/
theorem EntryCall.valid {call : EntryCall} (h : ValidatedCall k m.lib (.top (.entry call))) :
    (call.script k).Sound (validConduct k m.lib) w := by
  refine EntryCall.served (fun w₁ hasks a w₂ hx hw => ?_) (fun _ _ => trivial) fun _ _ _ => trivial
  cases hasks with
  | newInstance ctx codeID creator admin initMsg label =>
      obtain ⟨hlabel, hinit⟩ := h
      exact newInstance_valid hlabel hinit hx hw
  | migrateContract => exact migrateContract_valid h hx hw
  | receive | receive2 => exact hw.of_registry ((runReceive_stays k _ _ _).confined hx).registry
  | storeAsyncAckPacket =>
      obtain rfl := writeStore_ok_iff.mp hx
      exact hw.congr rfl rfl rfl

/-- **A call with valid data keeps the records valid.** -/
theorem ValidatedCall.keeps {call : KeeperCall} (h : ValidatedCall k m.lib call) {u : Unit}
    (hrun : call.run k m w = (.ok u, w')) : KeepsRecords m.lib k.codec w.ms.wasm w'.ms.wasm := by
  intro hw
  cases call with
  | create ctx creator wasmCode access policy =>
      obtain ⟨out, w₁, hcreate, hret⟩ := GoM.bind_ok_iff.mp hrun
      obtain ⟨-, rfl⟩ := GoM.pure_ok_iff.mp hret
      exact create_valid hsum h hcreate hw
  | setContractAdmin => exact setContractAdmin_valid hrun hw
  | setContractLabel => exact setContractLabel_valid h hrun hw
  | setContractInfoExtension => exact setContractInfoExtension_valid h hrun hw
  | setAccessConfig => exact setAccessConfig_valid h hrun hw
  | pinCode => exact pinCode_valid hrun hw
  | unpinCode => exact unpinCode_valid hrun hw
  | top call =>
      cases call with
      | entry call => exact (EntryCall.valid h).valid hsum hrun hw
      | message ctx msg =>
          have hserved : (k.msgServer m.lib ctx msg).Sound (validConduct k m.lib) w :=
            msgServer_served (fun _ _ hserved _ _ hx hw => hserved.valid hsum hx hw)
              (fun _ _ => trivial) fun _ _ _ => trivial
          exact (discard_sound hserved).valid hsum hrun hw

/-- **The records are valid in every state that such calls lead to.** -/
theorem Reached.recordsValid {P : KeeperCall → Prop}
    (hP : ∀ call, P call → ValidatedCall k m.lib call) {params : Option Params} {ext : ε}
    {st : ChainState ε} (h : Reached k m P (.initial params ext) st) :
    RecordsValid m.lib k.codec st.ms.wasm := by
  refine Reached.tracks (R := KeepsRecords m.lib k.codec)
    (fun call hcall _ _ _ hrun => (hP call hcall).keeps hsum hrun) h ?_
  refine ⟨fun id info hinfo => ?_, fun a info hinfo => ?_, fun key e he => ?_, fun a ha => ?_⟩
  · cases (show (none : Option CodeInfo) = some info from hinfo)
  · cases (show (none : Option ContractInfo) = some info from hinfo)
  · cases (show (none : Option ContractCodeHistoryEntry) = some e from he)
  · cases (show (none : Option ContractInfo).isSome = true from ha)

end Runs

theorem Reached.mono {P Q : KeeperCall → Prop} {st st' : ChainState ε} (h : Reached k m P st st')
    (hPQ : ∀ call, P call → Q call) : Reached k m Q st st' := by
  induction h with
  | refl => exact .refl
  | tail _ hstep ih =>
      refine .tail ih ?_
      cases hstep with
      | ok hcall hrun => exact .ok (hPQ _ hcall) hrun
      | failed hcall hrun => exact .failed (hPQ _ hcall) hrun

/-! ## The number zero -/

/-- The codes are numbered, and none has the number zero. -/
def ZeroFree (s : WasmStore) : Prop := CodesNumbered s ∧ s.getCodeInfo 0 = none

theorem CodesChange.zeroFree (h : CodesChange s s') (hs : ZeroFree s ∨ CodeSequenceWrapped s) :
    ZeroFree s' ∨ CodeSequenceWrapped s' := by
  rcases hs with ⟨hnumbered, hzero⟩ | hwrapped
  · rcases h.numbered (.inl hnumbered) with hnumbered' | hwrapped
    · refine .inl ⟨hnumbered', ?_⟩
      by_contra hsome
      rcases h.code_new (Option.isSome_iff_ne_none.mpr hsome) with hold | ⟨hnext, -⟩
      · rw [hzero] at hold
        cases hold
      · exact UInt64.ne_of_lt hnumbered.pos hnext
    · exact .inr hwrapped
  · exact .inr (h.code_stays hwrapped)

/-- No code has the number zero, unless the sequence has wrapped around. -/
theorem Reached.zeroFree {P : KeeperCall → Prop} {params : Option Params} {ext : ε}
    {st : ChainState ε} (h : Reached k m P (.initial params ext) st)
    (hwrapped : ¬ CodeSequenceWrapped st.ms.wasm) : ZeroFree st.ms.wasm := by
  have hall : ∀ {d d' : Durable}, Moments k d d' → ZeroFree d.store ∨ CodeSequenceWrapped d.store →
      ZeroFree d'.store ∨ CodeSequenceWrapped d'.store := by
    intro d d' hmoments hd
    induction hmoments with
    | refl => exact hd
    | tail _ hstep ih =>
        cases hstep with
        | change h => exact h.core.codes.zeroFree ih
        | packet packet hd' =>
            subst hd'
            exact ih.imp (fun h => ⟨⟨h.1.pos, h.1.below⟩, h.2⟩) id
  have hstart : CodesNumbered (ChainState.initial params ext).durable.store :=
    ⟨show (0 : UInt64) < 1 by decide, (CodesStart.initial (k := k) params ext).codes.1⟩
  exact (hall h.moments (.inl ⟨hstart, rfl⟩)).resolve_right hwrapped

/-! ## The export -/

/-- The entries that are shown are stored. -/
theorem mem_getContractHistory {a : AccAddress} {e : ContractCodeHistoryEntry}
    (h : e ∈ s.getContractHistory a) : ∃ key : Bytes, s.history[key]? = some e := by
  obtain ⟨⟨pos, e'⟩, hmem, rfl⟩ := List.mem_map.mp h
  exact ⟨_, WasmStore.mem_historyEntries.mp hmem⟩

theorem getContractHistory_ne_nil {a : AccAddress} {pos : UInt64}
    (h : (s.history[contractCodeHistoryElementKey a pos]?).isSome) :
    s.getContractHistory a ≠ [] := by
  obtain ⟨e, he⟩ := Option.isSome_iff_exists.mp h
  have hmem : e ∈ s.getContractHistory a :=
    List.mem_map.mpr ⟨(pos, e), WasmStore.mem_historyEntries.mpr he, rfl⟩
  exact List.ne_nil_of_mem hmem

/-- A contract of an export is accepted. -/
theorem RecordsValid.validateContract_ok (h : RecordsValid lib k.codec s) (hzero : ZeroFree s)
    {a : AccAddress} {info : ContractInfo} (hinfo : s.getContractInfo a = some info)
    (hkeys : ∀ model ∈ s.contractModels a, model.key ≠ []) :
    lib.validateContract k.codec (k.exportedContract s a info) = .ok () := by
  have hne : ∀ {id : UInt64}, (s.getCodeInfo id).isSome → id ≠ 0 := by
    rintro id hid rfl
    rw [hzero.2] at hid
    cases hid
  have hvalid := h.contracts a info hinfo
  have hrecord : lib.validateContractInfo k.codec info = .ok () :=
    MsgLib.validateContractInfo_ok_iff.mpr ⟨hne hvalid.code, hvalid.creator, hvalid.admin,
      hvalid.label, hvalid.ext⟩
  have hhistory : ∀ e ∈ s.getContractHistory a, lib.validateHistoryEntry e = .ok () := by
    intro e he
    obtain ⟨key, hkey⟩ := mem_getContractHistory he
    have hentry := h.history key e hkey
    exact MsgLib.validateHistoryEntry_ok_iff.mpr ⟨hentry.operation, hne hentry.code, hentry.msg⟩
  obtain ⟨pos, hpos⟩ := h.recorded a (Option.isSome_of_eq_some hinfo)
  exact MsgLib.validateContract_ok_iff.mpr ⟨⟨a, k.codec.decode_string a⟩, hrecord, hkeys,
    getContractHistory_ne_nil hpos, hhistory⟩

/-- The sequences of an export have names. -/
theorem exportSequences_valid : ∀ q ∈ Keeper.exportSequences s, q.idKey ≠ [] := by
  intro q hq
  obtain ⟨key, hkey, rfl⟩ := List.mem_map.mp hq
  simp only [List.mem_cons, List.not_mem_nil, or_false] at hkey
  rcases hkey with rfl | rfl
  · exact List.cons_ne_nil _ _
  · exact List.cons_ne_nil _ _

/-- **What is exported is valid**, but for two things: the parameters, which the authority may edit
without a check, and a code that is empty or larger than one in a proposal may be.  Messages check
the size of the code they bring, but a direct call does not, and an archive may unpack to nothing.
Take any state that calls lead to from a chain without codes and contracts, none of them simulated,
as long as code ids have not run out.  Direct calls hand valid data to the keeper; messages, whether
of accounts or of contracts, may have any content.  The state has an export, and `ValidateGenesis`
accepts the export unless it finds one of the two. -/
theorem exported_genesis_valid_iff (k : Keeper ε C) (m : Messenger ε C) (params : Params) (ext : ε)
    (st : ChainState ε) (hsum : ∀ code, k.wasmVM.checksum code ≠ [])
    (h : Reached k m (fun call => ValidatedCall k m.lib call ∧ call.simulates = false)
      (.initial (some params) ext) st)
    (hsequence : ¬ CodeSequenceWrapped st.ms.wasm) :
    ∃ data, k.exportGenesis st.ms.wasm st.vm = .ok data ∧
      (m.lib.validateGenesis k.codec data = .ok () ↔
        data.params.validateBasic k.codec = .ok () ∧
        ∀ c ∈ data.codes, c.codeBytes ≠ [] ∧ c.codeBytes.length ≤ maxProposalWasmSize) := by
  have hunsimulated : Reached k m (fun call => call.simulates = false)
      (.initial (some params) ext) st :=
    h.mono fun _ hcall => hcall.2
  have hvalid : RecordsValid m.lib k.codec st.ms.wasm := h.recordsValid hsum fun _ hcall => hcall.1
  have hzero := h.zeroFree hsequence
  have hexportable := hunsimulated.exportable
  obtain ⟨data, hexport, hdescribes⟩ := exportGenesis_describes hexportable
  have hcodes : (∀ c ∈ data.codes, c.validateBasic k.codec = .ok ()) ↔
      ∀ c ∈ data.codes, c.codeBytes ≠ [] ∧ c.codeBytes.length ≤ maxProposalWasmSize := by
    refine forall₂_congr fun c hc => ?_
    obtain ⟨hinfo, -⟩ := (hdescribes.codes c).mp hc
    have hne : c.codeID ≠ 0 := by
      intro heq
      rw [heq] at hinfo
      cases hzero.2.symm.trans hinfo
    simp [Code.validateBasic_ok_iff, hne, hvalid.codes _ _ hinfo, validateWasmCode_ok_iff]
  have hcontracts : ∀ c ∈ data.contracts, m.lib.validateContract k.codec c = .ok () := by
    intro c hc
    obtain ⟨a, info, hinfo, rfl⟩ := (hdescribes.contracts c).mp hc
    exact hvalid.validateContract_ok hzero hinfo
      (hexportable.state.key_ne_nil hexportable.lengths (Option.isSome_of_eq_some hinfo))
  have hsequences : ∀ q ∈ data.sequences, q.idKey ≠ [] := fun q hq =>
    exportSequences_valid q (hdescribes.sequences.mem_iff.mp hq)
  refine ⟨data, hexport, ?_⟩
  rw [MsgLib.validateGenesis_ok_iff, hcodes]
  constructor
  · rintro ⟨hparams, hcode, -⟩
    exact ⟨hparams, hcode⟩
  · rintro ⟨hparams, hcode⟩
    exact ⟨hparams, hcode, hcontracts, hsequences⟩

/-- A chain on which an account stored a code and made a contract: its export is accepted. -/
theorem exported_genesis_valid_iff_estate : ∃ data,
    estateKeeper.exportGenesis estateStart.ms.wasm estateStart.vm = .ok data ∧
      data.contracts.length = 1 ∧
        sendMessenger.lib.validateGenesis estateKeeper.codec data = .ok () := by
  obtain ⟨data, hexport, hiff⟩ :=
    exported_genesis_valid_iff estateKeeper sendMessenger defaultParams ()
    estateStart (fun _ => List.cons_ne_nil _ _) (estateStart_reached fun _ _ => ⟨trivial, rfl⟩)
    (by unfold CodeSequenceWrapped; decide +kernel)
  have hshape : (estateKeeper.exportGenesis estateStart.ms.wasm estateStart.vm).map (fun data =>
      (data.params, data.codes.map (·.codeBytes), data.contracts.map (·.contractState))) =
        .ok (defaultParams, [[1]], [[]]) := by decide +kernel
  rw [hexport] at hshape
  obtain ⟨hparams, hcodes, hcontracts⟩ : data.params = defaultParams ∧
      data.codes.map (·.codeBytes) = [[1]] ∧ data.contracts.map (·.contractState) = [[]] := by
    simpa [Except.map] using hshape
  refine ⟨data, hexport, by simpa using congrArg List.length hcontracts, hiff.mpr ⟨?_, ?_⟩⟩
  · rw [hparams]
    decide
  · intro c hc
    have hbytes : c.codeBytes ∈ [[1]] := hcodes ▸ List.mem_map_of_mem hc
    rw [List.mem_singleton.mp hbytes]
    decide

end Wasmd
