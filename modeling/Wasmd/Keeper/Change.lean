import Wasmd.Keeper.Outcome
import Mathlib.Logic.Relation

/-!
# What a call can do to the durable state

The durable state is the store of the module, the acknowledgements handed over and the code files of
the VM.  This file says once what the operations of the keeper can do to it; every invariant is
proved from that.

* `Change` — one change of the durable state, a constructor for each kind of operation.
* `MovesAt`, `Moves` — a call that succeeds makes changes only, and one that fails leaves at most
  new code files.
* `Edits`, `create_edits`, `newInstance_edits`, … — the operations, which hand over no
  acknowledgement.
-/

namespace Wasmd

open ByteStore Effects Gas

variable {ε C α β : Type}

/-- The store, the acknowledgements handed over, and the code files of the VM. -/
structure Durable where
  store : WasmStore
  acks : List Handover
  files : KVStore Bytes

/-- The durable part of a world. -/
def World.durable (w : World (Multistore ε) Shared) : Durable :=
  ⟨w.ms.wasm, w.ms.acks, w.shared.vm.codes⟩

/-! ## Changes -/

/-- The VM took the code and wrote its file. -/
inductive FileStep (vm : WasmVM C) (files files' : KVStore Bytes) : Prop
  | stored (code : Bytes) (gas : UInt64) : (vm.compile code gas).2 = .ok () →
      files' = files.insert (vm.checksum code) code → FileStep vm files files'

/-- The VM took some codes. -/
def Grows (vm : WasmVM C) : KVStore Bytes → KVStore Bytes → Prop :=
  Relation.ReflTransGen (FileStep vm)

/-- No acknowledgement was handed over and no code file written. -/
structure Durable.Quiet (d d' : Durable) : Prop where
  acks : d'.acks = d.acks
  files : d'.files = d.files

/-- What a change of the settings of a contract leaves alone. -/
structure SettingsOnly (old info : ContractInfo) : Prop where
  codeID : info.codeID = old.codeID
  creator : info.creator = old.creator
  created : info.created = old.created
  ibcPortID : info.ibcPortID = old.ibcPortID
  ibc2PortID : info.ibc2PortID = old.ibc2PortID

/-- **One change of the durable state.**  `sim` says whether simulated calls are among the calls
made. -/
inductive Change (k : Keeper ε C) (sim : Bool) (d d' : Durable) : Prop
  /-- A stored contract ran. -/
  | ran (contract : AccAddress) (hstored : (d.store.getContractInfo contract).isSome)
      (hregistry : d'.store.registry = d.store.registry)
      (hothers : OthersKept contract d.store d'.store) (hquiet : d.Quiet d')
  /-- A call failed after the VM had taken code. -/
  | files (hstore : d'.store = d.store) (hacks : d'.acks = d.acks)
      (hgrows : Grows k.wasmVM d.files d'.files)
  | create (creator : AccAddress) (config : AccessConfig) (code : Bytes)
      (hstore : d'.store = ((d.store.autoIncrementID keySequenceCodeID).2.storeCodeInfo
        (d.store.peekAutoIncrementID keySequenceCodeID)
        (newCodeInfo k.codec (k.wasmVM.checksum code) creator config)))
      (hacks : d'.acks = d.acks)
      (hfile : sim = true ∨ d'.files[k.wasmVM.checksum code]? = some code)
      (hgrows : Grows k.wasmVM d.files d'.files)
  | setAccessConfig (codeID : UInt64) (info : CodeInfo) (config : AccessConfig)
      (hinfo : d.store.getCodeInfo codeID = some info)
      (hstore : d'.store = d.store.storeCodeInfo codeID { info with instantiateConfig := config })
      (hquiet : d.Quiet d')
      (hcall : ∃ caller authZ w w' u, k.setAccessConfig codeID caller config authZ w = (.ok u, w') ∧
        w.durable = d ∧ w'.durable = d')
  | instantiate (ctx : SdkContext) (codeID : UInt64) (codeInfo : CodeInfo)
      (creator contract : AccAddress) (admin : Option AccAddress) (label : String)
      (info : ContractInfo) (initMsg : Bytes) (s₁ : WasmStore)
      (hnew : d.store.getContractInfo contract = none)
      (hcode : d.store.getCodeInfo codeID = some codeInfo)
      (haddr : Assigned k d.store codeID contract s₁)
      (hinfo : IsNewContract k codeID codeInfo.codeHash creator admin label ctx contract info)
      (hregistry : d'.store.registry = (s₁.registerContract creator contract info
        (info.initialHistory initMsg)).registry)
      (hothers : OthersKept contract d.store d'.store) (hquiet : d.Quiet d')
  | migrate (codeID : UInt64) (codeInfo : CodeInfo) (contract : AccAddress)
      (old info : ContractInfo) (last : ContractCodeHistoryEntry) (position : AbsoluteTxPosition)
      (msg : Bytes) (hold : d.store.getContractInfo contract = some old)
      (hcode : d.store.getCodeInfo codeID = some codeInfo)
      (hinfo : IsMigrated k codeID codeInfo.codeHash contract old info)
      (hlast : d.store.lastContractHistoryEntry contract = some last)
      (hregistry : d'.store.registry = (d.store.registerMigration contract info last
        ⟨.migrate, codeID, position, msg⟩).registry)
      (hothers : OthersKept contract d.store d'.store) (hquiet : d.Quiet d')
  | modify (contract : AccAddress) (old info : ContractInfo)
      (hold : d.store.getContractInfo contract = some old) (hinfo : SettingsOnly old info)
      (hstore : d'.store = d.store.storeContractInfo contract info) (hquiet : d.Quiet d')
  | pin (codeID : UInt64) (hcode : (d.store.getCodeInfo codeID).isSome)
      (hstore : d'.store =
        { d.store with pinned := d.store.pinned.insert (pinnedCodeIndexPrefix codeID) () })
      (hquiet : d.Quiet d')
  | unpin (codeID : UInt64)
      (hstore : d'.store =
        { d.store with pinned := d.store.pinned.erase (pinnedCodeIndexPrefix codeID) })
      (hquiet : d.Quiet d')
  | params (params : Params) (hstore : d'.store = { d.store with params := some params })
      (hquiet : d.Quiet d')
  | acknowledged (contract : AccAddress) (port channel : String) (sequence : UInt64)
      (packet : Packet) (ack : Bytes)
      (hload : d.store.loadAsyncAckPacket port channel sequence = some packet)
      (hstore : d'.store = d.store.deleteAsyncAckPacket port channel sequence)
      (hacks : d'.acks = d.acks ++ [⟨contract, port, channel, sequence, packet, ack⟩])
      (hfiles : d'.files = d.files)

/-- A sequence of changes. -/
def Changes (k : Keeper ε C) (sim : Bool) : Durable → Durable → Prop :=
  Relation.ReflTransGen (Change k sim)

/-! ## What a change does to a contract and to a code -/

/-- What a change does to the record at an address. -/
inductive ContractChange (k : Keeper ε C) (s : WasmStore) (a : AccAddress) :
    Option ContractInfo → Option ContractInfo → Prop
  | same (info : Option ContractInfo) : ContractChange k s a info info
  | instantiated {ctx : SdkContext} {codeID : UInt64} {codeInfo : CodeInfo} {creator : AccAddress}
      {admin : Option AccAddress} {label : String} {info : ContractInfo} {s₁ : WasmStore} :
      s.getCodeInfo codeID = some codeInfo → Assigned k s codeID a s₁ →
      IsNewContract k codeID codeInfo.codeHash creator admin label ctx a info →
      ContractChange k s a none (some info)
  | migrated {codeID : UInt64} {codeInfo : CodeInfo} {old info : ContractInfo} :
      s.getCodeInfo codeID = some codeInfo → IsMigrated k codeID codeInfo.codeHash a old info →
      ContractChange k s a (some old) (some info)
  | settings {old info : ContractInfo} : SettingsOnly old info →
      ContractChange k s a (some old) (some info)

theorem Change.contract {k : Keeper ε C} {sim : Bool} {d d' : Durable} (h : Change k sim d d')
    (a : AccAddress) :
    ContractChange k d.store a (d.store.getContractInfo a) (d'.store.getContractInfo a) := by
  have hsame : d'.store.getContractInfo a = d.store.getContractInfo a →
      ContractChange k d.store a (d.store.getContractInfo a) (d'.store.getContractInfo a) := by
    intro heq
    rw [heq]
    exact .same _
  cases h with
  | ran contract hstored hregistry => exact hsame (congrArg (·.getContractInfo a) hregistry)
  | files hstore => exact hsame (by rw [hstore])
  | create creator config code hstore =>
      exact hsame (by rw [hstore]; rfl)
  | setAccessConfig codeID info config hinfo hstore => exact hsame (by rw [hstore]; rfl)
  | instantiate ctx codeID codeInfo creator contract admin label info initMsg s₁ hnew hcode haddr
      hinfo hregistry =>
      have hget := congrArg (·.getContractInfo a) hregistry
      by_cases heq : a = contract
      · subst heq
        have hstored : d'.store.getContractInfo a = some info :=
          hget.trans (WasmStore.getContractInfo_storeContractInfo_self _ _ _)
        rw [hnew, hstored]
        exact .instantiated hcode haddr hinfo
      · exact hsame (hget.trans ((WasmStore.getContractInfo_storeContractInfo_of_ne _ _ heq).trans
          (haddr.getContractInfo_eq a)))
  | migrate codeID codeInfo contract old info last position msg hold hcode hinfo hlast hregistry =>
      have hget := congrArg (·.getContractInfo a) hregistry
      by_cases heq : a = contract
      · subst heq
        have hstored : d'.store.getContractInfo a = some info :=
          hget.trans (WasmStore.getContractInfo_storeContractInfo_self _ _ _)
        rw [hold, hstored]
        exact .migrated hcode hinfo
      · exact hsame (hget.trans (WasmStore.getContractInfo_storeContractInfo_of_ne _ _ heq))
  | modify contract old info hold hinfo hstore =>
      by_cases heq : a = contract
      · subst heq
        rw [hold, hstore, WasmStore.getContractInfo_storeContractInfo_self]
        exact .settings hinfo
      · exact hsame
          (by rw [hstore]; exact WasmStore.getContractInfo_storeContractInfo_of_ne _ _ heq)
  | pin codeID hcode hstore => exact hsame (by rw [hstore]; rfl)
  | unpin codeID hstore => exact hsame (by rw [hstore]; rfl)
  | params params hstore => exact hsame (by rw [hstore]; rfl)
  | acknowledged contract port channel sequence packet ack hload hstore =>
      exact hsame (by rw [hstore]; rfl)

/-! ## Calls that make changes only -/

/-- The call, made in the world `w`, leaves at most new code files if it fails, and makes changes
only if it succeeds. -/
def MovesAt (k : Keeper ε C) (sim : Bool) (x : KeeperM ε α) (w : World (Multistore ε) Shared) :
    Prop :=
  ∀ r w', x w = (r, w') → Grows k.wasmVM w.shared.vm.codes w'.shared.vm.codes ∧
    ∀ a, r = .ok a → Changes k sim w.durable w'.durable

theorem Confined.durable_eq {w w' : World (Multistore ε) Shared} (h : Confined noContract w w') :
    w'.durable = w.durable := by
  rw [World.durable, World.durable, h.wasm_eq, h.acks, h.files]

/-- The call does so in every world. -/
def Moves (k : Keeper ε C) (sim : Bool) (x : KeeperM ε α) : Prop := ∀ w, MovesAt k sim x w

namespace Moves

variable {k : Keeper ε C} {sim : Bool} {x : KeeperM ε α}

/-- A call that takes no code and makes one change if it succeeds. -/
theorem of_change (hfiles : GoM.Keeps (fun w => w.shared.vm.codes) x)
    (hok : ∀ w a w', x w = (.ok a, w') → Change k sim w.durable w'.durable) : Moves k sim x := by
  intro w r w' h
  refine ⟨?_, fun a ha => Relation.ReflTransGen.single (hok w a w' (ha ▸ h))⟩
  rw [hfiles.of_ok h]
  exact .refl

/-- A call that touches neither the store nor the code files. -/
theorem of_stays (hx : Stays noContract x) : Moves k sim x := by
  intro w r w' h
  have hc := hx.confined h
  refine ⟨by rw [hc.files]; exact .refl, fun a _ => ?_⟩
  rw [hc.durable_eq]
  exact .refl

end Moves

namespace MovesAt

variable {k : Keeper ε C} {sim : Bool} {x : KeeperM ε α} {f : α → KeeperM ε β}
  {w : World (Multistore ε) Shared}

theorem bind (hx : MovesAt k sim x w) (hf : ∀ a w', x w = (.ok a, w') → MovesAt k sim (f a) w') :
    MovesAt k sim (x >>= f) w := by
  intro r w' h
  rw [GoM.bind_run] at h
  split at h
  · rename_i a w₁ hs
    obtain ⟨hg, hc⟩ := hx _ w₁ hs
    obtain ⟨hg', hc'⟩ := hf a w₁ hs r w' h
    exact ⟨hg.trans hg', fun b hb => (hc a rfl).trans (hc' b hb)⟩
  · rename_i e w₁ hs
    cases h
    exact ⟨(hx _ _ hs).1, fun b hb => by cases hb⟩

theorem mapError {g : GoError → GoError} (hx : MovesAt k sim x w) :
    MovesAt k sim (GoM.mapError g x) w := by
  intro r w' h
  unfold GoM.mapError at h
  split at h
  · rename_i e w₁ hs
    cases h
    exact ⟨(hx _ _ hs).1, fun b hb => by cases hb⟩
  · exact hx r w' h

/-- A sandboxed message: its changes if it succeeded, at most new files if it failed. -/
theorem sandbox {D : Type} (d : MessageDispatcher (Multistore ε) Shared D) (addr : AccAddress)
    (ibcPort : String) (msg : SubMsg D)
    (hm : ∀ gas, MovesAt k sim (d.dispatchMsg addr ibcPort msg.msg)
      { w with gas := gas, events := [] }) :
    MovesAt k sim (d.sandbox addr ibcPort msg) w := by
  intro r w' h
  obtain ⟨gas, r₀, w₀, hmsg, hshared, hms⟩ := MessageDispatcher.sandbox_world h
  obtain ⟨hgrows, hchanges⟩ := hm gas _ _ hmsg
  have hfiles : w'.shared.vm.codes = w₀.shared.vm.codes := by rw [hshared]
  have hgrows : Grows k.wasmVM w.shared.vm.codes w'.shared.vm.codes := hfiles.symm ▸ hgrows
  refine ⟨hgrows, fun _ _ => ?_⟩
  rcases hms with ⟨⟨a, ha⟩, hms⟩ | hms
  · have hsame : w'.durable = w₀.durable := by rw [World.durable, World.durable, hms, hfiles]
    rw [hsame]
    exact hchanges a ha
  · refine Relation.ReflTransGen.single (.files ?_ ?_ ?_)
    · show w'.ms.wasm = _
      rw [hms]
      rfl
    · show w'.ms.acks = _
      rw [hms]
      rfl
    · exact hgrows

end MovesAt

theorem Moves.bind {k : Keeper ε C} {sim : Bool} {x : KeeperM ε α} {f : α → KeeperM ε β}
    (hx : Moves k sim x) (hf : ∀ a, Moves k sim (f a)) : Moves k sim (x >>= f) :=
  fun w => (hx w).bind fun a w' _ => hf a w'

/-- A call that makes changes, and hands over no acknowledgement. -/
structure Edits (k : Keeper ε C) (sim : Bool) (x : KeeperM ε α) : Prop where
  moves : Moves k sim x
  acks : ∀ w a w', x w = (.ok a, w') → w'.ms.acks = w.ms.acks

namespace Edits

variable {k : Keeper ε C} {sim : Bool} {x : KeeperM ε α}

/-- An operation that takes no code and makes one change if it succeeds. -/
theorem of_change (hfiles : GoM.Keeps (fun w => w.shared.vm.codes) x)
    (hok : ∀ w a w', x w = (.ok a, w') →
      Change k sim w.durable w'.durable ∧ w'.ms.acks = w.ms.acks) : Edits k sim x :=
  ⟨.of_change hfiles fun w a w' h => (hok w a w' h).1, fun w a w' h => (hok w a w' h).2⟩

theorem of_stays (hx : Stays noContract x) : Edits k sim x :=
  ⟨.of_stays hx, fun _ _ _ h => (hx.confined h).acks⟩

/-- The run of a stored contract. -/
theorem of_run {contract : AccAddress} (hx : Stays (· = contract) x)
    (hstored : ∀ w a w', x w = (.ok a, w') → (w.ms.wasm.getContractInfo contract).isSome) :
    Edits k sim x := by
  refine of_change (fun w => (hx w).files) fun w a w' h => ?_
  have hc := hx.confined h
  exact ⟨.ran contract (hstored w a w' h) hc.registry hc.othersKept ⟨hc.acks, hc.files⟩, hc.acks⟩

theorem bind {f : α → KeeperM ε β} (hx : Edits k sim x) (hf : ∀ a, Edits k sim (f a)) :
    Edits k sim (x >>= f) := by
  refine ⟨hx.moves.bind fun a => (hf a).moves, fun w b w' h => ?_⟩
  obtain ⟨a, w₁, h₁, h₂⟩ := GoM.bind_ok_iff.mp h
  exact ((hf a).acks w₁ b w' h₂).trans (hx.acks w a w₁ h₁)

end Edits

/-! ## No code files -/

/-- The code files of the VM. -/
abbrev codeFiles (w : World (Multistore ε) Shared) : KVStore Bytes := w.shared.vm.codes

theorem Stays.keepsFiles {A : AccAddress → Prop} {x : KeeperM ε α} (hx : Stays A x) :
    GoM.Keeps codeFiles x :=
  fun w => (hx w).files

section Files

variable (k : Keeper ε C)

theorem writeStore_keepsFiles (f : WasmStore → WasmStore) :
    GoM.Keeps codeFiles (writeStore f : KeeperM ε Unit) := fun _ => rfl

theorem emitEvents_keepsFiles (evts : List Event) :
    GoM.Keeps codeFiles (emitEvents evts : KeeperM ε Unit) := fun _ => rfl

theorem readStore_keepsFiles (f : WasmStore → α) :
    GoM.Keeps codeFiles (readStore f : KeeperM ε α) := fun _ => rfl

theorem orPanic_keepsFiles (r : Except Panic α) :
    GoM.Keeps codeFiles (orPanic r : KeeperM ε α) := fun _ => rfl

theorem orError_keepsFiles (r : Except GoError α) :
    GoM.Keeps codeFiles (orError r : KeeperM ε α) := fun _ => rfl

theorem mustAutoIncrementID_keepsFiles (sequenceKey : Bytes) :
    GoM.Keeps codeFiles (mustAutoIncrementID sequenceKey : KeeperM ε UInt64) :=
  .bind (readStore_keepsFiles _) fun _ => .bind (writeStore_keepsFiles _) fun _ => .pure _

theorem claimAddress_keepsFiles (codeID : UInt64) (codeInfo : CodeInfo) (creator : AccAddress)
    (deposit : Coins.CoinSet) (g : AddressGenerator) (authPolicy : AuthorizationPolicy) :
    GoM.Keeps codeFiles (k.claimAddress codeID codeInfo creator deposit g authPolicy) := by
  have haddr : GoM.Keeps codeFiles (k.generateAddress codeID codeInfo.codeHash g) := by
    cases g with
    | classic => exact .bind (mustAutoIncrementID_keepsFiles _) fun _ => .pure _
    | predictable _ _ _ _ => exact orPanic_keepsFiles _
  refine .bind (orPanic_keepsFiles _) fun _ => .bind (.ensure _ _) fun _ => .bind haddr fun a => ?_
  refine .bind (readStore_keepsFiles _) fun _ => .bind (.ensure _ _) fun _ => ?_
  exact .bind (claimAccount_stays k (A := noContract) a).keepsFiles fun _ =>
    .bind (transferFunds_stays k (A := noContract) _ _ _).keepsFiles fun _ => .pure _

theorem callContract_keepsFiles (ctx : SdkContext) (codeID : UInt64) (checksum : Bytes)
    (input : VMInput) {between : KeeperM ε AccAddress} (hb : GoM.Keeps codeFiles between) :
    GoM.Keeps codeFiles (k.callContract ctx codeID checksum input between) := by
  refine .bind (.bind (setup_stays k (A := noContract) _ _ _).keepsFiles fun _ => .bind hb fun a =>
    .bind (orPanic_keepsFiles _) fun _ => .pure _) fun a => ?_
  exact .bind (VMEnv.call_stays _ _ _).keepsFiles fun _ => .pure _

theorem newInstance_keepsFiles (ctx : SdkContext) (codeID : UInt64)
    (creator admin : Option AccAddress) (initMsg : Bytes) (label : String) (deposit : Coins.CoinSet)
    (g : AddressGenerator) (authPolicy : AuthorizationPolicy) : GoM.Keeps codeFiles
      (k.newInstance ctx codeID creator admin initMsg label deposit g authPolicy) := by
  refine .bind (.ofOption _ _) fun _ => .bind (readStore_keepsFiles _) fun _ =>
    .bind (.ofOption _ _) fun codeInfo => ?_
  refine .bind (callContract_keepsFiles k _ _ _ _ (claimAddress_keepsFiles k _ _ _ _ _ _))
    fun out => ?_
  refine .bind (contractResult_stays (A := noContract) _ _ _).keepsFiles fun _ => ?_
  exact .bind (orPanic_keepsFiles _) fun _ => .bind (orError_keepsFiles _) fun _ =>
    .bind (writeStore_keepsFiles _) fun _ => .bind (emitEvents_keepsFiles _) fun _ => .pure _

theorem migrateContract_keepsFiles (ctx : SdkContext) (a caller : AccAddress) (newCodeID : UInt64)
    (msg : Bytes) (authZ : AuthorizationPolicy) :
    GoM.Keeps codeFiles (k.migrateContract ctx a caller newCodeID msg authZ) := by
  refine .bind (readStore_keepsFiles _) fun _ => .bind (.ofOption _ _) fun old =>
    .bind (orPanic_keepsFiles _) fun _ => .bind (.ensure _ _) fun _ =>
    .bind (readStore_keepsFiles _) fun _ => .bind (.ofOption _ _) fun codeInfo =>
    .bind (orPanic_keepsFiles _) fun _ => .bind (.ensure _ _) fun _ =>
    .bind (orError_keepsFiles _) fun report => .bind (.ensure _ _) fun _ =>
    .bind (readStore_keepsFiles _) fun _ => .bind (.ofOptionPanic _ _) fun _ =>
    .bind (orError_keepsFiles _) fun oldReport => ?_
  refine .bind (.ite (callMigrateEntrypoint_stays _ _ _ _ _ _ _).keepsFiles (.pure _))
    fun response => ?_
  exact .bind (readStore_keepsFiles _) fun _ => .bind (.ofOptionPanic _ _) fun _ =>
    .bind (orPanic_keepsFiles _) fun _ => .bind (writeStore_keepsFiles _) fun _ =>
    .bind (emitEvents_keepsFiles _) fun _ => .pure _

theorem syncPinnedCodes_keepsFiles (checksums : List Bytes) :
    GoM.Keeps codeFiles (k.syncPinnedCodes checksums) := by
  intro w
  unfold Keeper.syncPinnedCodes Keeper.syncCodes
  split <;> rfl

end Files

/-! ## The operations -/

section Operations

variable {k : Keeper ε C} {sim : Bool}

/-- However the call ends, the VM has taken some codes. -/
def Grown (vm : WasmVM C) (x : KeeperM ε α) : Prop :=
  ∀ w, Grows vm (codeFiles w) (codeFiles (x w).2)

theorem Grown.of_keeps {vm : WasmVM C} {x : KeeperM ε α} (hx : GoM.Keeps codeFiles x) :
    Grown vm x := by
  intro w
  rw [show codeFiles (x w).2 = codeFiles w from hx w]
  exact .refl

theorem Grown.bind {vm : WasmVM C} {x : KeeperM ε α} {f : α → KeeperM ε β} (hx : Grown vm x)
    (hf : ∀ a, Grown vm (f a)) : Grown vm (x >>= f) := by
  intro w
  have h := hx w
  rw [GoM.bind_run]
  split
  · rename_i a w₁ hs
    rw [hs] at h
    exact h.trans (hf a w₁)
  · rename_i e w₁ hs
    rwa [hs] at h

theorem storeByteCode_grown (ctx : SdkContext) (code : Bytes) :
    Grown k.wasmVM (k.storeByteCode ctx code) := by
  refine .bind (.of_keeps (Stays.onMeter (A := noContract) _).keepsFiles) fun gasLeft => ?_
  refine Grown.bind ?_ fun _ => .of_keeps ?_
  · split
    · rename_i hcond
      refine fun w => Relation.ReflTransGen.single (.stored code gasLeft ?_ rfl)
      cases hverdict : (k.wasmVM.compile code gasLeft).2 with
      | error e => simp [hverdict, Except.toBool] at hcond
      | ok u => rfl
    · exact .of_keeps (.pure ())
  · exact .bind (Stays.onMeter (A := noContract) _).keepsFiles fun _ =>
      .bind (orError_keepsFiles _) fun _ => .pure _

theorem create_grown (ctx : SdkContext) (creator : Option AccAddress) (wasmCode : Bytes)
    (access : Option AccessConfig) (authZ : AuthorizationPolicy) :
    Grown k.wasmVM (k.create ctx creator wasmCode access authZ) := by
  refine .bind (.of_keeps (.ofOption _ _)) fun _ => .bind (.of_keeps
    (getParams_stays (A := noContract)).keepsFiles) fun _ =>
      .bind (.of_keeps (orPanic_keepsFiles _))
    fun _ => .bind (.of_keeps (orPanic_keepsFiles _)) fun _ => .bind (.of_keeps (.ensure _ _))
    fun _ => .bind (.of_keeps (unpackCode_stays k (A := noContract) _).keepsFiles) fun code =>
    .bind (storeByteCode_grown _ _) fun _ => .of_keeps ?_
  refine .bind (.ite (.pure _) (.bind (orError_keepsFiles _) fun _ => .pure _)) fun _ => ?_
  exact .bind (mustAutoIncrementID_keepsFiles _) fun _ => .bind (writeStore_keepsFiles _) fun _ =>
    .bind (emitEvents_keepsFiles _) fun _ => .pure _

theorem create_edits {ctx : SdkContext} (hsim : ctx.simulate = true → sim = true)
    (creator : Option AccAddress) (wasmCode : Bytes) (access : Option AccessConfig)
    (authZ : AuthorizationPolicy) : Edits k sim (k.create ctx creator wasmCode access authZ) := by
  refine ⟨fun w r w' h => ?_, fun w out w' h => ?_⟩
  · have hgrows : Grows k.wasmVM (codeFiles w) (codeFiles w') := by
      have hg := create_grown (k := k) ctx creator wasmCode access authZ w
      rwa [h] at hg
    refine ⟨hgrows, fun out hout => Relation.ReflTransGen.single ?_⟩
    subst hout
    obtain ⟨addr, -, fallback, code, -, -, -, -, -, hstore, hacks, hfile⟩ := create_ok h
    exact .create addr _ code hstore hacks (hfile.imp hsim id) hgrows
  · obtain ⟨-, -, -, -, -, -, -, -, -, -, hacks, -⟩ := create_ok h
    exact hacks

theorem setAccessConfig_edits (codeID : UInt64) (caller : AccAddress) (config : AccessConfig)
    (authZ : AuthorizationPolicy) : Edits k sim (k.setAccessConfig codeID caller config authZ) := by
  refine .of_change ?_ fun w u w' h => ?_
  · exact .bind (readStore_keepsFiles _) fun _ => .bind (.ofOption _ _) fun _ =>
      .bind (getParams_stays (A := noContract)).keepsFiles fun _ => .bind (orPanic_keepsFiles _)
      fun _ => .bind (.ensure _ _) fun _ => .bind (writeStore_keepsFiles _) fun _ =>
      emitEvents_keepsFiles _
  · obtain ⟨info, -, -, hinfo, -, -, -, hstore, hquiet⟩ := setAccessConfig_ok h
    exact ⟨.setAccessConfig codeID info config hinfo hstore ⟨hquiet.acks, hquiet.files⟩
      ⟨caller, authZ, w, w', u, h, rfl, rfl⟩, hquiet.acks⟩

theorem newInstance_change {ctx : SdkContext} {codeID : UInt64} {creator admin : Option AccAddress}
    {initMsg : Bytes} {label : String} {deposit : Coins.CoinSet} {g : AddressGenerator}
    {authPolicy : AuthorizationPolicy} {w w' : World (Multistore ε) Shared}
    {out : AccAddress × ContractInfo × ContractResponse C}
    (h : k.newInstance ctx codeID creator admin initMsg label deposit g authPolicy w
      = (.ok out, w')) : Change k sim w.durable w'.durable := by
  obtain ⟨a, info, res⟩ := out
  obtain ⟨addr, codeInfo, s₁, -, hcode, -, hnew, haddr, hinfo, hregistry, hothers, hquiet⟩ :=
    newInstance_ok h
  exact .instantiate ctx codeID codeInfo addr a admin label info initMsg s₁ hnew hcode haddr hinfo
    hregistry hothers ⟨hquiet.acks, hquiet.files⟩

theorem newInstance_edits (ctx : SdkContext) (codeID : UInt64) (creator admin : Option AccAddress)
    (initMsg : Bytes) (label : String) (deposit : Coins.CoinSet) (g : AddressGenerator)
    (authPolicy : AuthorizationPolicy) : Edits k sim
      (k.newInstance ctx codeID creator admin initMsg label deposit g authPolicy) := by
  refine .of_change (newInstance_keepsFiles k _ _ _ _ _ _ _ _ _) fun w out w' h =>
    ⟨newInstance_change h, ?_⟩
  obtain ⟨a, info, res⟩ := out
  obtain ⟨-, -, -, -, -, -, -, -, -, -, -, hquiet⟩ := newInstance_ok h
  exact hquiet.acks

theorem migrateContract_change {ctx : SdkContext} {a caller : AccAddress} {newCodeID : UInt64}
    {msg : Bytes} {authZ : AuthorizationPolicy} {w w' : World (Multistore ε) Shared}
    {out : ContractInfo × Option (ContractResponse C)}
    (h : k.migrateContract ctx a caller newCodeID msg authZ w = (.ok out, w')) :
    Change k sim w.durable w'.durable := by
  obtain ⟨info, res⟩ := out
  obtain ⟨old, -, codeInfo, last, position, hold, -, -, hcode, -, hlast, -, hinfo, hregistry,
    hothers, hquiet⟩ := migrateContract_ok h
  exact .migrate newCodeID codeInfo a old info last position msg hold hcode hinfo hlast hregistry
    hothers ⟨hquiet.acks, hquiet.files⟩

theorem migrateContract_edits (ctx : SdkContext) (a caller : AccAddress) (newCodeID : UInt64)
    (msg : Bytes) (authZ : AuthorizationPolicy) :
    Edits k sim (k.migrateContract ctx a caller newCodeID msg authZ) := by
  refine .of_change (migrateContract_keepsFiles k _ _ _ _ _ _) fun w out w' h =>
    ⟨migrateContract_change h, ?_⟩
  obtain ⟨info, res⟩ := out
  obtain ⟨-, -, -, -, -, -, -, -, -, -, -, -, -, -, -, hquiet⟩ := migrateContract_ok h
  exact hquiet.acks

theorem modifyContract_edits (a caller : AccAddress) (authZ : AuthorizationPolicy)
    (change : ContractInfo → ContractInfo) (event : Event)
    (hchange : ∀ info, SettingsOnly info (change info)) :
    Edits k sim (k.modifyContract a caller authZ change event) := by
  refine .of_change ?_ fun w u w' h => ?_
  · exact .bind (readStore_keepsFiles _) fun _ => .bind (.ofOption _ _) fun _ =>
      .bind (orPanic_keepsFiles _) fun _ => .bind (.ensure _ _) fun _ =>
      .bind (writeStore_keepsFiles _) fun _ => emitEvents_keepsFiles _
  · obtain ⟨old, -, hold, -, -, hstore, hquiet⟩ := modifyContract_ok h
    exact ⟨.modify a old _ hold (hchange old) hstore ⟨hquiet.acks, hquiet.files⟩, hquiet.acks⟩

theorem setContractInfoExtension_edits (a : AccAddress) (ext : Option Bytes) :
    Edits k sim (k.setContractInfoExtension a ext) := by
  refine .of_change ?_ fun w u w' h => ?_
  · exact .bind (readStore_keepsFiles _) fun _ => .bind (.ofOption _ _) fun _ =>
      .bind (orError_keepsFiles _) fun _ => writeStore_keepsFiles _
  · obtain ⟨old, packed, hold, -, hstore, hquiet⟩ := setContractInfoExtension_ok h
    exact ⟨.modify a old { old with ext := packed } hold ⟨rfl, rfl, rfl, rfl, rfl⟩ hstore
      ⟨hquiet.acks, hquiet.files⟩, hquiet.acks⟩

theorem pinCode_edits (codeID : UInt64) : Edits k sim (k.pinCode codeID) := by
  refine .of_change ?_ fun w u w' h => ?_
  · exact .bind (readStore_keepsFiles _) fun _ => .bind (.ofOption _ _) fun _ =>
      .bind (Stays.consumeGas (A := noContract) _ _).keepsFiles fun _ =>
      .bind (readStore_keepsFiles _) fun _ => .bind (orError_keepsFiles _) fun _ =>
      .bind (syncPinnedCodes_keepsFiles k _) fun _ => .bind (writeStore_keepsFiles _) fun _ =>
      emitEvents_keepsFiles _
  · obtain ⟨info, -, hinfo, hstore, hquiet, -⟩ := pinCode_ok h
    exact ⟨.pin codeID (Option.isSome_of_eq_some hinfo) hstore ⟨hquiet.acks, hquiet.files⟩,
      hquiet.acks⟩

theorem unpinCode_edits (codeID : UInt64) : Edits k sim (k.unpinCode codeID) := by
  refine .of_change ?_ fun w u w' h => ?_
  · exact .bind (readStore_keepsFiles _) fun _ => .bind (.ofOption _ _) fun _ =>
      .bind (Stays.consumeGas (A := noContract) _ _).keepsFiles fun _ =>
      .bind (readStore_keepsFiles _) fun _ => .bind (orError_keepsFiles _) fun _ =>
      .bind (syncPinnedCodes_keepsFiles k _) fun _ => .bind (writeStore_keepsFiles _) fun _ =>
      emitEvents_keepsFiles _
  · obtain ⟨-, hstore, hquiet, -⟩ := unpinCode_ok h
    exact ⟨.unpin codeID hstore ⟨hquiet.acks, hquiet.files⟩, hquiet.acks⟩

/-- A call that began with `contractInstance` was made on a stored contract. -/
theorem contractInstance_stored {contract : AccAddress} {f : ContractInfo × CodeInfo → KeeperM ε α}
    {w w' : World (Multistore ε) Shared} {a : α}
    (h : (contractInstance k.codec contract >>= f) w = (.ok a, w')) :
    (w.ms.wasm.getContractInfo contract).isSome := by
  obtain ⟨p, w₁, hinstance, -⟩ := GoM.bind_ok_iff.mp h
  obtain ⟨info, hinfo, -⟩ := lookup_ok hinstance
  rw [hinfo]
  rfl

theorem runReceive_edits (ctx : SdkContext) (contract : AccAddress) (input : VMInput) :
    Edits k sim (k.runReceive ctx contract input) :=
  .of_run (runReceive_stays k _ _ _) fun _ _ _ h => contractInstance_stored h

end Operations

end Wasmd
