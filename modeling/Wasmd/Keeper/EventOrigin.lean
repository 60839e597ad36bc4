import Wasmd.Keeper.DispatchEvents
import Wasmd.Keeper.MsgServer
import Wasmd.Lib.TrimSpace

/-!
# Where events come from

A contract chooses the attributes and the events of its response; `handleContractResponse` stamps
them with the address of the contract and refuses keys that are reserved (`events.go`).  The keeper
and other modules emit events of other types.

* `Stamped` — what an event of a response looks like; `emitResponse_ensures` says that no other
  events are emitted, not even when the response is refused in the middle, and that none with a
  reserved key (`Forges`) is accepted.
* `Genuine` — an event in the name space of contracts comes from a contract that returned it.
* `emits_runExecute`, `emits_newInstance`, … — the operations of the keeper emit genuine events
  only, and the response they hand on was returned by the contract it is handled for.
-/

namespace Wasmd

open ByteStore Effects Gas Text

variable {ε C α β : Type}

/-! ## The events of one response -/

/-- A key that only the module may use. -/
def Reserved (key : String) : Prop := "_".toList <+: key.toList

instance (key : String) : Decidable (Reserved key) :=
  inferInstanceAs (Decidable ("_".toList <+: key.toList))

/-- An event of a response, as it is emitted: its type is in the name space of contracts, its first
attribute is the address, and the others have keys that are not reserved and not padded. -/
structure Stamped (address : String) (evts : List Event) (e : Event) : Prop where
  type : e.type = "wasm" ∨ ∃ ev ∈ evts, e.type = "wasm-" ++ trimSpace ev.type
  attributes : ∃ own, e.attributes = ⟨"_contract_address", address⟩ :: own ∧
    ∀ l ∈ own, ¬ Reserved l.key ∧ Trimmed l.key

/-- One of the attributes of a response has a reserved key, once it is trimmed. -/
def Forges (attrs : List Attribute) (evts : List Event) : Prop :=
  ∃ l, (l ∈ attrs ∨ ∃ ev ∈ evts, l ∈ ev.attributes) ∧ Reserved (trimSpace l.key)

section Response

variable {address : String} {custom attrs : List Attribute} {evts : List Event}

/-- The attributes behind the address: their keys are trimmed, and none that was given is
reserved. -/
theorem contractSDKEventAttributes_ok
    (h : contractSDKEventAttributes trimSpace address custom = .ok attrs) :
    (∃ own, attrs = ⟨"_contract_address", address⟩ :: own ∧
      ∀ l ∈ own, ¬ Reserved l.key ∧ Trimmed l.key) ∧
      ∀ l ∈ custom, ¬ Reserved (trimSpace l.key) := by
  obtain ⟨own, hown, hret⟩ := except_bind_ok_iff.mp h
  cases hret
  refine ⟨⟨own, rfl, fun b hb => ?_⟩, fun l hl hres => ?_⟩
  · obtain ⟨l, -, hl⟩ := (mem_of_mapM_ok hown).mp hb
    obtain ⟨hfree, hret⟩ := check_ok (check_ok hl).2
    cases hret
    exact ⟨fun hres => hfree (String.startsWith_string_iff.mpr hres), trimmed_trimSpace l.key⟩
  · obtain ⟨b, hb⟩ := exists_of_mapM_ok hown hl
    exact (check_ok (check_ok hb).2).1 (String.startsWith_string_iff.mpr hres)

theorem newWasmModuleEvent_ok {out : List Event}
    (h : newWasmModuleEvent trimSpace address custom = .ok out) :
    (∀ e ∈ out, Stamped address evts e) ∧ ∀ l ∈ custom, ¬ Reserved (trimSpace l.key) := by
  obtain ⟨attrs, hattrs, hret⟩ := except_bind_ok_iff.mp h
  cases hret
  obtain ⟨hown, hfree⟩ := contractSDKEventAttributes_ok hattrs
  refine ⟨fun e he => ?_, hfree⟩
  rw [List.mem_singleton.mp he]
  exact ⟨.inl rfl, hown⟩

theorem newCustomEvents_ok {out : List Event}
    (h : newCustomEvents trimSpace address evts = .ok out) :
    (∀ e ∈ out, Stamped address evts e) ∧
      ∀ ev ∈ evts, ∀ l ∈ ev.attributes, ¬ Reserved (trimSpace l.key) := by
  refine ⟨fun e he => ?_, fun ev hev l hl => ?_⟩
  · obtain ⟨ev, hev, hrun⟩ := (mem_of_mapM_ok h).mp he
    obtain ⟨attributes, hattrs, hret⟩ := except_bind_ok_iff.mp (check_ok hrun).2
    cases hret
    exact ⟨.inr ⟨ev, hev, rfl⟩, (contractSDKEventAttributes_ok hattrs).1⟩
  · obtain ⟨e, hrun⟩ := exists_of_mapM_ok h hev
    obtain ⟨attributes, hattrs, -⟩ := except_bind_ok_iff.mp (check_ok hrun).2
    exact (contractSDKEventAttributes_ok hattrs).2 l hl

end Response

/-! ### Emitting them -/

section Emit

variable {k : Keeper ε C} {J : List Event → Prop} {G : Event → Prop}

/-- What is said of the events holds after a call that emits none. -/
theorem ensures_silent {x : KeeperM ε α} (h : GoM.Keeps World.events x) :
    GoM.Ensures (fun w => J w.events) x fun _ => True :=
  .of_keeps h

theorem ensures_orError {x : Except GoError α} :
    GoM.Ensures (fun w => J w.events) (orError x : KeeperM ε α) fun a => x = .ok a :=
  .ofExcept fun _ h => except_mapError_ok_iff.mp h

theorem ensures_orPanic {x : Except Panic α} :
    GoM.Ensures (fun w => J w.events) (orPanic x : KeeperM ε α) fun a => x = .ok a :=
  .ofExcept fun _ h => except_mapError_ok_iff.mp h

theorem ensures_consumeGas (amount : UInt64) (descriptor : String) :
    GoM.Ensures (fun w => J w.events) (consumeGas amount descriptor : KeeperM ε Unit)
      fun _ => True :=
  ensures_silent fun _ => rfl

theorem ensures_emitEvents {evts : List Event} (h : ∀ l, J l → J (l ++ evts)) :
    GoM.Ensures (fun w => J w.events) (emitEvents evts : KeeperM ε Unit) fun _ => True :=
  fun w hw => ⟨h w.events hw, fun _ _ => trivial⟩

/-- **The events of a response are stamped**, also those that were emitted before it failed. -/
theorem emitResponse_ensures (htrim : k.trimSpace = trimSpace) {a : AccAddress}
    {attrs : List Attribute} {evts : List Event}
    (hJ : ∀ l new, J l → (∀ e ∈ new, Stamped (k.codec.string a) evts e) → J (l ++ new))
    (ctx : SdkContext) :
    GoM.Ensures (fun w => J w.events) (k.emitResponse ctx a attrs evts) fun _ =>
      ¬ Forges attrs evts := by
  unfold Keeper.emitResponse
  rw [htrim]
  refine ensures_orPanic.bind fun cost _ => ?_
  refine (ensures_consumeGas _ _).bind fun _ _ => ?_
  refine ensures_orError.bind fun wasmEvents hwasm => ?_
  have hmodule : (∀ e ∈ wasmEvents, Stamped (k.codec.string a) evts e) ∧
      ∀ l ∈ attrs, ¬ Reserved (trimSpace l.key) := by
    split at hwasm
    · exact newWasmModuleEvent_ok hwasm
    · rename_i hnone
      cases hwasm
      rw [not_not.mp hnone]
      exact ⟨nofun, nofun⟩
  refine (ensures_emitEvents fun l hl => hJ l _ hl hmodule.1).bind fun _ _ => ?_
  refine ensures_orError.bind fun customEvents hcustom => ?_
  have hown := newCustomEvents_ok hcustom
  refine (ensures_emitEvents fun l hl => hJ l _ hl hown.1).bind fun _ _ => ?_
  refine ensures_orError.mono fun _ _ => ?_
  rintro ⟨l, hl | ⟨ev, hev, hl⟩, hres⟩
  · exact hmodule.2 l hl hres
  · exact hown.2 ev hev l hl hres

end Emit

/-! ## Where events come from -/

/-- The types in the name space of contracts. -/
def ContractType (type : String) : Prop := type = "wasm" ∨ "wasm-".toList <+: type.toList

instance (type : String) : Decidable (ContractType type) :=
  inferInstanceAs (Decidable (type = "wasm" ∨ "wasm-".toList <+: type.toList))

/-- A run of the contract in the VM ended with this response. -/
def RespondedWith (k : Keeper ε C) (a : AccAddress) (res : ContractResponse C) : Prop :=
  ∃ ctx checksum input vmMeter w w',
    (k.vmEnv ctx a).call vmMeter (k.wasmVM.call ctx checksum a input) w =
      (.ok (.ok (some (.ok res))), w')

/-- An event in the name space of contracts is one that a contract returned, stamped with the
address of that contract.  Attributes may have been sorted on the way. -/
def Genuine (k : Keeper ε C) (e : Event) : Prop :=
  ContractType e.type → ∃ a res, RespondedWith k a res ∧ ∃ e₀,
    Stamped (k.codec.string a) res.events e₀ ∧
    e.type = e₀.type ∧ e.attributes.Perm e₀.attributes

theorem Genuine.sortAttributes {k : Keeper ε C} {e : Event} (h : Genuine k e) :
    Genuine k (sortAttributes e) := by
  intro hcontract
  obtain ⟨a, res, hreturned, e₀, hstamped, htype, hperm⟩ := h hcontract
  exact ⟨a, res, hreturned, e₀, hstamped, htype, (List.perm_insertionSort _ _).trans hperm⟩

/-- A call on another module emits nothing in the name space of contracts. -/
def Unrelated (y : ExtM ε α) : Prop :=
  ∀ w, ∀ e ∈ (y w).2.events, e ∈ w.events ∨ ¬ ContractType e.type

/-- The steps of another module emit nothing in the name space of contracts, and what the last one
returns satisfies `Q`. -/
def ForeignRun.Separate (Q : α → Prop) : ForeignRun ε α → Prop
  | .last x => Unrelated x ∧ ∀ w a w', x w = (.ok a, w') → Q a
  | .step x next => Unrelated x ∧ ∀ b, (next b).Separate Q
  | .call _ next => ∀ data, (next data).Separate Q

/-- Other modules leave the name space of contracts alone. -/
structure SeparateModules (k : Keeper ε C) (m : Messenger ε C) : Prop where
  transferCoins : ∀ sender contract coins, Unrelated (k.transferCoins sender contract coins)
  getAccount : ∀ a, Unrelated (k.getAccount a)
  setNewAccount : ∀ a, Unrelated (k.setNewAccount a)
  cleanupExistingAccount : ∀ account, Unrelated (k.cleanupExistingAccount account)
  sendPacket : ∀ ctx port channel height timestamp data,
    Unrelated (m.sendPacket ctx port channel height timestamp data)
  writeAcknowledgement : ∀ ctx packet ack, Unrelated (m.writeAcknowledgement ctx packet ack)
  encode : ∀ msg encode, m.variant msg = .sdk encode → ∀ ctx a port, Unrelated (encode ctx a port)
  handler : ∀ msg encode, m.variant msg = .sdk encode → ∀ ctx a port w msgs w',
    encode ctx a port w = (.ok msgs, w') → ∀ other, .other other ∈ msgs →
      ∀ handler, other.handler = some handler → ∀ ctx, (handler ctx).Separate fun _ => True
  extension : ∀ msg handle, m.variant msg = .extension handle → ∀ ctx a,
    (handle ctx a).Separate fun r => ∀ e ∈ r.events, ¬ ContractType e.type

/-- The call emits genuine events, and what it returns satisfies `Q`. -/
abbrev Emits (k : Keeper ε C) (x : KeeperM ε α) (Q : α → Prop) : Prop :=
  GoM.Ensures (AllEvents (Genuine k)) x Q

/-- The script emits genuine events, and what it returns satisfies `Q`. -/
abbrev ScriptEmits (k : Keeper ε C) (s : KeeperScript ε C α) (Q : α → Prop) : Prop :=
  s.Ensures (AllEvents (Genuine k)) Q

/-! ### Steps -/

section Steps

variable {k : Keeper ε C}

theorem emits_silent {x : KeeperM ε α} (h : GoM.Keeps World.events x) : Emits k x fun _ => True :=
  ensures_silent (J := fun l => ∀ e ∈ l, Genuine k e) h

theorem emits_orError {x : Except GoError α} : Emits k (orError x) fun a => x = .ok a :=
  ensures_orError (J := fun l => ∀ e ∈ l, Genuine k e)

theorem emits_orPanic {x : Except Panic α} : Emits k (orPanic x) fun a => x = .ok a :=
  ensures_orPanic (J := fun l => ∀ e ∈ l, Genuine k e)

theorem emits_readStore (f : WasmStore → α) : Emits k (readStore f) fun _ => True :=
  emits_silent fun _ => rfl

theorem emits_writeStore (f : WasmStore → WasmStore) : Emits k (writeStore f) fun _ => True :=
  emits_silent fun _ => rfl

theorem emits_consumeGas (amount : UInt64) (descriptor : String) :
    Emits k (consumeGas amount descriptor) fun _ => True :=
  emits_silent fun _ => rfl

theorem emits_onMeter (g : GasMeter → Except Panic α × GasMeter) :
    Emits k (onMeter g) fun _ => True :=
  emits_silent fun _ => rfl

/-- The module itself emits events of other types. -/
theorem emits_emitEvent {type : String} {attributes : List Attribute} (h : ¬ ContractType type) :
    Emits k (emitEvents [⟨type, attributes⟩]) fun _ => True :=
  ensures_emitEvents (J := fun l => ∀ e ∈ l, Genuine k e) fun l hl e' he' => by
    rcases List.mem_append.mp he' with hold | hnew
    · exact hl e' hold
    · rw [List.mem_singleton.mp hnew]
      exact fun hcontract => absurd hcontract h

theorem emits_onExt {y : ExtM ε α} (h : Unrelated y) : Emits k (onExt y) fun _ => True := by
  refine fun w hw => ⟨fun e he => ?_, fun _ _ => trivial⟩
  rcases h _ e he with hold | hother
  · exact hw e hold
  · exact fun hcontract => absurd hcontract hother

theorem emits_getParams : Emits k getParams fun _ => True :=
  (emits_readStore _).bind fun _ _ => (GoM.Ensures.ofOptionPanic _ _).trivially

theorem emits_mustAutoIncrementID (key : Bytes) : Emits k (mustAutoIncrementID key) fun _ => True :=
  (emits_readStore _).bind fun _ _ => (emits_writeStore _).bind fun _ _ => .pure trivial

theorem emits_contractInstance (a : AccAddress) :
    Emits k (contractInstance k.codec a) fun _ => True :=
  (emits_readStore _).bind fun _ _ => (GoM.Ensures.ofOption _ _).bind fun _ _ =>
    (emits_readStore _).bind fun _ _ => (GoM.Ensures.ofOption _ _).bind fun _ _ => .pure trivial

theorem emits_loadModule (name : String) (codeID : UInt64) (checksum : Bytes) (msgLen : Int) :
    Emits k (k.loadModule name codeID checksum msgLen) fun _ => True :=
  (emits_readStore _).bind fun _ _ =>
    (emits_silent fun _ => rfl : Emits k (checkDiscountEligibility _ _) fun _ => True).bind
      fun _ _ => emits_orPanic.bind fun _ _ => emits_consumeGas _ _

theorem emits_setup (codeID : UInt64) (checksum : Bytes) (entry : VMEntry) :
    Emits k (k.setup codeID checksum entry) fun _ => True := by
  unfold Keeper.setup
  split
  · exact emits_loadModule _ _ _ _
  · exact emits_loadModule _ _ _ _
  · split
    all_goals first
      | exact emits_loadModule _ _ _ _
      | exact .pure trivial
      | exact emits_orPanic.bind fun _ _ => emits_consumeGas _ _

/-- A contract in the VM emits nothing. -/
theorem VMEnv.call_keepsEvents (env : VMEnv ε) (vmMeter : VMMeter) (run : ContractRun α) :
    GoM.Keeps World.events (env.call vmMeter run) := by
  unfold VMEnv.call
  refine .bind (fun _ => rfl) fun gasLeft => .bind (.gets _) fun start => ?_
  refine .bind (fun w => ?_) fun out => .bind (fun _ => rfl) fun _ => .pure _
  cases hrun : env.exec ⟨vmMeter, gasLeft, start⟩ run 0 w with
  | mk r w' => exact (VMEnv.exec_sameBut hrun).events

theorem emits_prepare {ctx : SdkContext} {codeID : UInt64} {checksum : Bytes} {entry : VMEntry}
    {between : KeeperM ε AccAddress} {R : AccAddress → Prop} (hbetween : Emits k between R) :
    Emits k (k.prepare ctx codeID checksum entry between) R :=
  (emits_setup _ _ _).bind fun _ _ => hbetween.bind fun _ ha => emits_orPanic.bind
    fun _ _ => .pure ha

/-- **The response of a call was returned by the contract** it is handled for. -/
theorem emits_callContract {ctx : SdkContext} {codeID : UInt64} {checksum : Bytes}
    {input : VMInput} {between : KeeperM ε AccAddress} {R : AccAddress → Prop}
    (hbetween : Emits k between R) :
    Emits k (k.callContract ctx codeID checksum input between) fun p =>
      R p.1 ∧ ∀ res, p.2 = .ok (some (.ok res)) → RespondedWith k p.1 res := by
  refine (emits_prepare hbetween).bind fun a ha => ?_
  have hcall : Emits k ((k.vmEnv ctx a).call input.entryPoint.vmMeter
      (k.wasmVM.call ctx checksum a input)) fun out =>
        ∀ res, out = .ok (some (.ok res)) → RespondedWith k a res := by
    intro w hw
    have hsilent := emits_silent (VMEnv.call_keepsEvents (k.vmEnv ctx a) input.entryPoint.vmMeter
      (k.wasmVM.call ctx checksum a input)) w hw
    refine ⟨hsilent.1, fun out hout res hres => ?_⟩
    rw [hres] at hout
    exact ⟨ctx, checksum, input, _, w, _, Prod.ext hout rfl⟩
  exact hcall.bind fun out hout => .pure ⟨ha, hout⟩

theorem emits_contractResult (vmFailed failed : Registered)
    (out : Except VMStop (Option (Except String (ContractResponse C)))) :
    Emits k (contractResult vmFailed failed out) fun res => out = .ok (some (.ok res)) := by
  unfold contractResult
  split
  · exact .failWith _
  · exact .failWith _
  · split
    · exact .raise _
    · exact .failWith _
  · exact .pure rfl

theorem emits_migrateResult (out : Except VMStop (Option (Except String (ContractResponse C)))) :
    Emits k (Keeper.migrateResult out) fun response => ∀ res, response = some res →
      out = .ok (some (.ok res)) := by
  unfold Keeper.migrateResult
  split
  · exact .failWith _
  · exact .failWith _
  · split
    · exact .pure nofun
    · exact .failWith _
  · refine .pure fun res hres => ?_
    rw [Option.some.inj hres]

end Steps

/-! ### Operations of the keeper -/

section Operations

variable {k : Keeper ε C} {m : Messenger ε C} (h : SeparateModules k m)

theorem emits_modifyContract (contract caller : AccAddress) (authZ : AuthorizationPolicy)
    (change : ContractInfo → ContractInfo) {type : String} {attributes : List Attribute}
    (htype : ¬ ContractType type) :
    Emits k (k.modifyContract contract caller authZ change ⟨type, attributes⟩) fun _ => True :=
  (emits_readStore _).bind fun _ _ => (GoM.Ensures.ofOption _ _).bind fun _ _ =>
    emits_orPanic.bind fun _ _ => (GoM.Ensures.ensure _ _).bind fun _ _ =>
      (emits_writeStore _).bind fun _ _ => emits_emitEvent htype

theorem emits_setAccessConfig (codeID : UInt64) (caller : AccAddress) (config : AccessConfig)
    (authz : AuthorizationPolicy) :
    Emits k (k.setAccessConfig codeID caller config authz) fun _ => True := by
  unfold Keeper.setAccessConfig
  refine (emits_readStore _).bind fun _ _ => (GoM.Ensures.ofOption _ _).bind fun info _ => ?_
  refine emits_getParams.bind fun params _ => emits_orPanic.bind fun creator _ => ?_
  refine (GoM.Ensures.ensure _ _).bind fun _ _ => (emits_writeStore _).bind fun _ _ => ?_
  exact emits_emitEvent (by decide)

theorem emits_unpackCode (wasmCode : Bytes) : Emits k (k.unpackCode wasmCode) fun _ => True := by
  unfold Keeper.unpackCode
  split
  · refine emits_orPanic.bind fun cost _ => (emits_consumeGas _ _).bind fun _ _ => ?_
    split
    · exact .pure trivial
    · exact .failWith _
  · exact .pure trivial

theorem emits_storeByteCode (ctx : SdkContext) (wasmCode : Bytes) :
    Emits k (k.storeByteCode ctx wasmCode) fun _ => True := by
  unfold Keeper.storeByteCode
  refine (emits_onMeter _).bind fun gasLeft _ => ?_
  dsimp only
  refine GoM.Ensures.bind (.ite (emits_silent fun _ => rfl) (.pure trivial)) fun _ _ => ?_
  exact (emits_onMeter _).bind fun _ _ => emits_orError.bind fun _ _ => .pure trivial

theorem emits_create (ctx : SdkContext) (creator : Option AccAddress) (wasmCode : Bytes)
    (access : Option AccessConfig) (authZ : AuthorizationPolicy) :
    Emits k (k.create ctx creator wasmCode access authZ) fun _ => True := by
  unfold Keeper.create
  refine (GoM.Ensures.ofOption _ _).bind fun creator _ => emits_getParams.bind fun params _ => ?_
  refine emits_orPanic.bind fun defaultConfig _ => ?_
  dsimp only
  refine emits_orPanic.bind fun allowed _ => (GoM.Ensures.ensure _ _).bind fun _ _ => ?_
  refine (emits_unpackCode _).bind fun code _ => (emits_storeByteCode ctx _).bind
    fun checksum _ => ?_
  have hcapabilities : Emits k (if ctx.simulate then pure "" else do
      let report ← k.analyzeCode errCreateFailed checksum
      pure report.requiredCapabilities) fun _ => True :=
    .ite (.pure trivial) (emits_orError.bind fun _ _ => .pure trivial)
  refine hcapabilities.bind fun capabilities _ => ?_
  refine (emits_mustAutoIncrementID _).bind fun codeID _ => (emits_writeStore _).bind fun _ _ => ?_
  exact (emits_emitEvent (by decide)).bind fun _ _ => .pure trivial

theorem emits_syncCodes (failed : Registered) (checksums : List Bytes) :
    Emits k (k.syncCodes failed checksums) fun _ => True := by
  refine emits_silent fun w => ?_
  unfold Keeper.syncCodes
  split <;> rfl

theorem emits_pinCode (codeID : UInt64) : Emits k (k.pinCode codeID) fun _ => True :=
  (emits_readStore _).bind fun _ _ => (GoM.Ensures.ofOption _ _).bind fun _ _ =>
    (emits_consumeGas _ _).bind fun _ _ => (emits_readStore _).bind fun _ _ =>
      emits_orError.bind fun _ _ => (emits_syncCodes _ _).bind fun _ _ =>
        (emits_writeStore _).bind fun _ _ => emits_emitEvent (by decide)

theorem emits_unpinCode (codeID : UInt64) : Emits k (k.unpinCode codeID) fun _ => True :=
  (emits_readStore _).bind fun _ _ => (GoM.Ensures.ofOption _ _).bind fun _ _ =>
    (emits_consumeGas _ _).bind fun _ _ => (emits_readStore _).bind fun _ _ =>
      emits_orError.bind fun _ _ => (emits_syncCodes _ _).bind fun _ _ =>
        (emits_writeStore _).bind fun _ _ => emits_emitEvent (by decide)

theorem emits_editUploadAddresses (edit : List String → List String) :
    Emits k (editUploadAddresses edit) fun _ => True :=
  emits_getParams.bind fun _ _ => (GoM.Ensures.ensure _ _).bind fun _ _ => emits_writeStore _

/-- A stored contract is run. -/
theorem emits_runContract (ctx : SdkContext) (a : AccAddress) (input : VMInput)
    (vmFailed : Registered) :
    Emits k (k.runContract ctx a input vmFailed) fun p => RespondedWith k a p.2 := by
  unfold Keeper.runContract
  refine (emits_contractInstance a).bind fun found _ => ?_
  have hself : Emits k (pure a) fun b => b = a := .pure rfl
  refine (emits_callContract hself).bind fun out hout => ?_
  refine (emits_contractResult _ _ out.2).bind fun res hres => .pure ?_
  obtain ⟨rfl, hreturned⟩ := hout
  exact hreturned res hres

theorem emits_runReceive (ctx : SdkContext) (a : AccAddress) (input : VMInput) :
    Emits k (k.runReceive ctx a input) fun p => ∀ res, p.2 = .ok res → RespondedWith k a res := by
  unfold Keeper.runReceive
  refine (emits_contractInstance a).bind fun found _ => ?_
  have hself : Emits k (pure a) fun b => b = a := .pure rfl
  refine (emits_callContract hself).bind fun out hout => ?_
  obtain ⟨rfl, hreturned⟩ := hout
  dsimp only
  split
  · exact .raise _
  · exact .failWith _
  · split
    · exact .raise _
    · exact .pure nofun
  · rename_i res hres
    refine .pure fun res' heq => hreturned res' ?_
    rw [hres, Except.ok.inj heq]

theorem emits_acceptPacket (ctx : SdkContext) (a : AccAddress) (input : VMInput) :
    Emits k (k.acceptPacket ctx a input) fun p => RespondedWith k a p.2 := by
  refine (emits_runReceive ctx a input).bind fun out hout => ?_
  obtain ⟨info, received⟩ := out
  cases received with
  | error err => exact .failWith _
  | ok res => exact .pure (hout res rfl)

include h

theorem emits_transferFunds (sender contract : AccAddress) (coins : Coins.CoinSet) :
    Emits k (k.transferFunds sender contract coins) fun _ => True :=
  .ite (.pure trivial) (emits_onExt (h.transferCoins sender contract coins))

theorem emits_runExecute (ctx : SdkContext) (a caller : AccAddress) (msg : Bytes)
    (coins : Coins.CoinSet) :
    Emits k (k.runExecute ctx a caller msg coins) fun p => RespondedWith k a p.2 := by
  unfold Keeper.runExecute
  refine (emits_contractInstance a).bind fun found _ => ?_
  have hself : Emits k (do
      k.transferFunds caller a coins
      return a) fun b => b = a :=
    (emits_transferFunds h _ _ _).bind fun _ _ => .pure rfl
  refine (emits_callContract hself).bind fun out hout => ?_
  obtain ⟨rfl, hreturned⟩ := hout
  refine (emits_contractResult _ _ out.2).bind fun res hres => ?_
  exact (emits_emitEvent (by decide)).bind fun _ _ => .pure (hreturned res hres)

theorem emits_claimAccount (a : AccAddress) : Emits k (k.claimAccount a) fun _ => True := by
  unfold Keeper.claimAccount
  refine (emits_onExt (h.getAccount a)).bind fun account _ => ?_
  split
  · exact emits_onExt (h.setNewAccount a)
  · refine (GoM.Ensures.ensure _ _).bind fun _ _ => .ite (.pure trivial) ?_
    refine (emits_onExt (h.setNewAccount a)).bind fun _ _ => ?_
    refine (emits_onExt (h.cleanupExistingAccount _)).mapError.bind fun _ _ => ?_
    exact (GoM.Ensures.ensure _ _).trivially

theorem emits_claimAddress (codeID : UInt64) (codeInfo : CodeInfo) (creator : AccAddress)
    (deposit : Coins.CoinSet) (generator : AddressGenerator) (policy : AuthorizationPolicy) :
    Emits k (k.claimAddress codeID codeInfo creator deposit generator policy) fun _ => True := by
  have hgenerate : Emits k (k.generateAddress codeID codeInfo.codeHash generator)
      fun _ => True := by
    unfold Keeper.generateAddress
    split
    · exact (emits_mustAutoIncrementID _).bind fun _ _ => .pure trivial
    · exact emits_orPanic.trivially
  unfold Keeper.claimAddress
  refine emits_orPanic.bind fun allowed _ => (GoM.Ensures.ensure _ _).bind fun _ _ => ?_
  refine hgenerate.bind fun a _ => (emits_readStore _).bind fun _ _ => ?_
  refine (GoM.Ensures.ensure _ _).bind fun _ _ => (emits_claimAccount h a).bind fun _ _ => ?_
  exact (emits_transferFunds h _ _ _).bind fun _ _ => .pure trivial

theorem emits_newInstance (ctx : SdkContext) (codeID : UInt64) (creator admin : Option AccAddress)
    (initMsg : Bytes) (label : String) (deposit : Coins.CoinSet) (generator : AddressGenerator)
    (policy : AuthorizationPolicy) :
    Emits k (k.newInstance ctx codeID creator admin initMsg label deposit generator policy)
      fun p => RespondedWith k p.1 p.2.2 := by
  unfold Keeper.newInstance
  refine (GoM.Ensures.ofOption _ _).bind fun creator _ => (emits_readStore _).bind fun _ _ => ?_
  refine (GoM.Ensures.ofOption _ _).bind fun codeInfo _ => ?_
  refine (emits_callContract (emits_claimAddress h _ _ _ _ _ _)).bind fun out hout => ?_
  refine (emits_contractResult _ _ out.2).bind fun res hres => ?_
  refine emits_orPanic.bind fun createdAt _ => emits_orError.bind fun report _ => ?_
  dsimp only
  refine (emits_writeStore _).bind fun _ _ => ?_
  exact (emits_emitEvent (by decide)).bind fun _ _ => .pure (hout.2 res hres)

omit h in
theorem emits_migrateContract (ctx : SdkContext) (a caller : AccAddress) (newCodeID : UInt64)
    (msg : Bytes) (authZ : AuthorizationPolicy) :
    Emits k (k.migrateContract ctx a caller newCodeID msg authZ)
      fun p => ∀ res, p.2 = some res → RespondedWith k a res := by
  have hself : Emits k (pure a) fun b => b = a := .pure rfl
  unfold Keeper.migrateContract
  refine (emits_readStore _).bind fun _ _ => (GoM.Ensures.ofOption _ _).bind fun info _ => ?_
  refine emits_orPanic.bind fun admin _ => (GoM.Ensures.ensure _ _).bind fun _ _ => ?_
  refine (emits_readStore _).bind fun _ _ => (GoM.Ensures.ofOption _ _).bind fun newCode _ => ?_
  refine emits_orPanic.bind fun allowed _ => (GoM.Ensures.ensure _ _).bind fun _ _ => ?_
  refine emits_orError.bind fun report _ => (GoM.Ensures.ensure _ _).bind fun _ _ => ?_
  dsimp only
  refine (emits_readStore _).bind fun _ _ => (GoM.Ensures.ofOptionPanic _ _).bind
    fun oldCode _ => ?_
  refine emits_orError.bind fun oldReport _ => ?_
  -- the entry point answers for the contract that is migrated
  refine GoM.Ensures.bind (R := fun response => ∀ res, response = some res →
    RespondedWith k a res) ?_ fun response hresponse => ?_
  · refine .ite ((emits_callContract hself).bind fun out hout => ?_) (.pure nofun)
    obtain ⟨rfl, hreturned⟩ := hout
    exact (emits_migrateResult out.2).mono fun _ hresult res hres =>
      hreturned res (hresult res hres)
  · refine (emits_readStore _).bind fun _ _ => (GoM.Ensures.ofOptionPanic _ _).bind fun last _ => ?_
    refine emits_orPanic.bind fun position _ => (emits_writeStore _).bind fun _ _ => ?_
    exact (emits_emitEvent (by decide)).bind fun _ _ => .pure hresponse

end Operations

end Wasmd
