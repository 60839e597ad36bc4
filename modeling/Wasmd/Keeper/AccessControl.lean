import Wasmd.Keeper.Codes
import Wasmd.Keeper.Privilege
import Wasmd.Lib.Ownership

/-!
# Who may change what

Without the authority of governance, access to the registry is a small machine of its own: accounts
and contracts take turns, and each turn is one of five things a certain owner or a permitted account
may do.  An account takes turns if it signs, or if another module routes messages in its name, as
`authz` does for those who have granted it.

* `AccessState` — what access control is about.  `WasmStore.access` reads it off the store.
* `AccessStep` — the five turns, each with the condition under which it is allowed.
* `create_access`, `newInstance_access`, … — an operation under the default policy is a turn.
* `Represented` — who other modules route messages for.
* `UserCall` — the calls of accounts without authority.
* `user_runs_access` — **every run of such calls is a run of the machine**, whatever messages the
  contracts send on the way.
* `absent_account_property` — the contracts and codes of an account that takes no turn stay as they
  are, and so do contracts without an admin, the parameters and the pins.
-/

namespace Wasmd

open ByteStore KVStore Effects Gas Ownership

variable {ε C : Type} {k : Keeper ε C} {m : Messenger ε C}

/-! ## The machine -/

/-- What access control is about. -/
@[ext]
structure AccessState where
  params : Option Params
  codes : UInt64 → Option CodeInfo
  nextCodeID : UInt64
  contracts : AccAddress → Option ContractInfo
  pinned : UInt64 → Bool

/-- The store seen that way. -/
def WasmStore.access (s : WasmStore) : AccessState :=
  ⟨s.params, s.getCodeInfo, s.nextCodeID, s.getContractInfo, s.isPinnedCode⟩

namespace AccessState

/-- A code is stored under the next number. -/
def upload (s : AccessState) (info : CodeInfo) : AccessState :=
  { s with
    codes := Function.update s.codes s.nextCodeID (some info)
    nextCodeID := s.nextCodeID + 1 }

/-- The record of a code is written. -/
def setCode (s : AccessState) (id : UInt64) (info : CodeInfo) : AccessState :=
  { s with codes := Function.update s.codes id (some info) }

/-- The record of a contract is written. -/
def setContract (s : AccessState) (a : AccAddress) (info : ContractInfo) : AccessState :=
  { s with contracts := Function.update s.contracts a (some info) }

end AccessState

/-- **A turn of the account or contract `who`.** -/
inductive AccessStep (codec : AddressCodec) (who : AccAddress) (s : AccessState) :
    AccessState → Prop
  /-- Who may upload stores a code, with a permission within the default. -/
  | upload (params : Params) (fallback config : AccessConfig) (hash : Bytes)
      (hparams : s.params = some params)
      (hallowed : params.codeUploadAccess.allowed codec (some who) = .ok true)
      (hfallback : params.instantiateDefaultPermission.withAddrs codec [who] = .ok fallback)
      (hsubset : config.isSubset fallback = true) :
      AccessStep codec who s (s.upload (newCodeInfo codec hash who config))
  /-- Who may instantiate the code makes a contract, at a new address. -/
  | instantiate (contract : AccAddress) (info : ContractInfo) (code : CodeInfo)
      (hcode : s.codes info.codeID = some code)
      (hallowed : code.instantiateConfig.allowed codec (some who) = .ok true)
      (hnew : s.contracts contract = none) (hlength : contract.bytes.length = 32)
      (hcreator : info.creator = codec.string who) :
      AccessStep codec who s (s.setContract contract info)
  /-- The admin moves the contract to a code that the admin may instantiate. -/
  | migrate (contract : AccAddress) (old info : ContractInfo) (code : CodeInfo)
      (hold : s.contracts contract = some old) (hadmin : old.adminAddr codec = .ok (some who))
      (hcode : s.codes info.codeID = some code)
      (hallowed : code.instantiateConfig.allowed codec (some who) = .ok true)
      (hsame : info.creator = old.creator ∧ info.admin = old.admin ∧ info.label = old.label) :
      AccessStep codec who s (s.setContract contract info)
  /-- The admin names another one, or none, or changes the label. -/
  | administer (contract : AccAddress) (old : ContractInfo) (admin label : String)
      (hold : s.contracts contract = some old) (hadmin : old.adminAddr codec = .ok (some who)) :
      AccessStep codec who s (s.setContract contract { old with admin := admin, label := label })
  /-- The creator of a code sets its permission, of a kind within the default. -/
  | configure (codeID : UInt64) (code : CodeInfo) (params : Params) (config : AccessConfig)
      (hcode : s.codes codeID = some code)
      (hcreator : codec.accAddressFromBech32 code.creator = .ok who)
      (hparams : s.params = some params)
      (hsubset : config.permission.isSubset params.instantiateDefaultPermission = true) :
      AccessStep codec who s (s.setCode codeID { code with instantiateConfig := config })

/-- Who may take a turn: the accounts `S`, and the contracts. -/
def MayAct (S : AccAddress → Prop) (s : AccessState) (who : AccAddress) : Prop :=
  S who ∨ (s.contracts who).isSome

/-- A run of the machine. -/
abbrev AccessRun (codec : AddressCodec) (S : AccAddress → Prop) :
    AccessState → AccessState → Prop :=
  Turns (MayAct S) (AccessStep codec)

/-! ### What a turn leaves alone -/

namespace AccessStep

variable {codec : AddressCodec} {who : AccAddress} {s s' : AccessState}

theorem pinned_eq (h : AccessStep codec who s s') : s'.pinned = s.pinned := by
  cases h <;> rfl

/-- A contract that is there stays. -/
theorem isSome_contracts (h : AccessStep codec who s s') {a : AccAddress}
    (ha : (s.contracts a).isSome) : (s'.contracts a).isSome := by
  have hupdate : ∀ (contract : AccAddress) (info : ContractInfo),
      (Function.update s.contracts contract (some info) a).isSome := by
    intro contract info
    by_cases heq : a = contract
    · subst heq
      simp
    · rwa [Function.update_of_ne heq]
  cases h with
  | upload => exact ha
  | instantiate contract info => exact hupdate contract info
  | migrate contract old info => exact hupdate contract info
  | administer contract old admin label => exact hupdate contract _
  | configure => exact ha

/-- A new contract has an address of 32 bytes. -/
theorem contracts_eq_none (h : AccessStep codec who s s') {a : AccAddress}
    (ha : s.contracts a = none) (hlength : a.bytes.length ≠ 32) : s'.contracts a = none := by
  have hreplaced : ∀ {contract : AccAddress} {old : ContractInfo} (info : ContractInfo),
      s.contracts contract = some old →
        Function.update s.contracts contract (some info) a = none := by
    intro contract old info hold
    have hne : a ≠ contract := by
      rintro rfl
      rw [ha] at hold
      cases hold
    rw [Function.update_of_ne hne, ha]
  cases h with
  | upload => exact ha
  | instantiate contract info code hcode hallowed hnew hlen =>
      have hne : a ≠ contract := by
        rintro rfl
        exact hlength hlen
      show Function.update s.contracts contract (some info) a = none
      rw [Function.update_of_ne hne, ha]
  | migrate contract old info code hold => exact hreplaced info hold
  | administer contract old admin label hold => exact hreplaced _ hold
  | configure => exact ha

end AccessStep

/-! ### Codes -/

/-- Every code lies below the sequence. -/
def AccessState.Below (s : AccessState) : Prop := ∀ id, (s.codes id).isSome → id < s.nextCodeID

/-- The sequence of the codes has come to its last number. -/
def AccessState.Spent (s : AccessState) : Prop :=
  s.nextCodeID = lastID ∨ (s.codes lastID).isSome

namespace AccessStep

variable {codec : AddressCodec} {who : AccAddress} {s s' : AccessState}

theorem isSome_codes (h : AccessStep codec who s s') {id : UInt64} (hid : (s.codes id).isSome) :
    (s'.codes id).isSome := by
  have hupdate : ∀ (codeID : UInt64) (info : CodeInfo),
      (Function.update s.codes codeID (some info) id).isSome := by
    intro codeID info
    by_cases heq : id = codeID
    · subst heq
      simp
    · rwa [Function.update_of_ne heq]
  cases h with
  | upload => exact hupdate _ _
  | instantiate => exact hid
  | migrate => exact hid
  | administer => exact hid
  | configure codeID code params config => exact hupdate _ _

theorem spent (h : AccessStep codec who s s') (hs : s.Spent) : s'.Spent := by
  rcases hs with hs | hs
  · cases h with
    | upload =>
        right
        show (Function.update s.codes s.nextCodeID _ lastID).isSome
        rw [hs]
        simp
    | instantiate => exact .inl hs
    | migrate => exact .inl hs
    | administer => exact .inl hs
    | configure => exact .inl hs
  · exact .inr (h.isSome_codes hs)

theorem below (h : AccessStep codec who s s') (hs : s.Below) (hspent : ¬ s.Spent) : s'.Below := by
  cases h with
  | upload params fallback config hash =>
      have hlt : s.nextCodeID < s.nextCodeID + 1 :=
        lt_add_one_of_ne_last fun heq => hspent (.inl heq)
      intro id hid
      by_cases heq : id = s.nextCodeID
      · subst heq
        exact hlt
      · replace hid : (Function.update s.codes s.nextCodeID _ id).isSome := hid
        rw [Function.update_of_ne heq] at hid
        exact UInt64.lt_trans (hs id hid) hlt
  | instantiate => exact hs
  | migrate => exact hs
  | administer => exact hs
  | configure codeID code params config hcode =>
      intro id hid
      by_cases heq : id = codeID
      · subst heq
        exact hs id (by rw [hcode]; rfl)
      · replace hid : (Function.update s.codes codeID _ id).isSome := hid
        rw [Function.update_of_ne heq] at hid
        exact hs id hid

end AccessStep

/-! ## Operations under the default policy -/

/-- What access control is about does not depend on the storage of contracts. -/
theorem WasmStore.access_of_registry {s s' : WasmStore} (h : s'.registry = s.registry) :
    s'.access = s.access := by
  have hcongr := congrArg WasmStore.access h
  exact hcongr

section Writes

variable (s : WasmStore)

theorem WasmStore.access_storeCodeInfo (codeID : UInt64) (info : CodeInfo) :
    (s.storeCodeInfo codeID info).access = s.access.setCode codeID info := by
  ext1
  · rfl
  · funext id
    show (s.storeCodeInfo codeID info).getCodeInfo id =
      Function.update s.getCodeInfo codeID (some info) id
    by_cases heq : id = codeID
    · subst heq
      rw [Function.update_self]
      exact s.getCodeInfo_storeCodeInfo_self id info
    · rw [Function.update_of_ne heq]
      exact s.getCodeInfo_storeCodeInfo_of_ne info heq
  · rfl
  · rfl
  · rfl

theorem WasmStore.access_storeContractInfo (contract : AccAddress) (info : ContractInfo) :
    (s.storeContractInfo contract info).access = s.access.setContract contract info := by
  ext1
  · rfl
  · rfl
  · rfl
  · funext a
    show (s.storeContractInfo contract info).getContractInfo a =
      Function.update s.getContractInfo contract (some info) a
    by_cases heq : a = contract
    · subst heq
      rw [Function.update_self]
      exact s.getContractInfo_storeContractInfo_self a info
    · rw [Function.update_of_ne heq]
      exact s.getContractInfo_storeContractInfo_of_ne info heq
  · rfl

/-- A code is stored under the number that the sequence gives. -/
theorem WasmStore.access_upload (info : CodeInfo) :
    ((s.autoIncrementID keySequenceCodeID).2.storeCodeInfo (s.peekAutoIncrementID keySequenceCodeID)
      info).access = s.access.upload info := by
  have hnext : (s.autoIncrementID keySequenceCodeID).2.access =
      { s.access with nextCodeID := s.access.nextCodeID + 1 } := by
    ext1
    · rfl
    · rfl
    · exact s.peekAutoIncrementID_autoIncrementID_self keySequenceCodeID
    · rfl
    · rfl
  rw [WasmStore.access_storeCodeInfo, hnext]
  rfl

/-- The sequence of the instances does not count. -/
theorem Assigned.access_eq {s s₁ : WasmStore} {codeID : UInt64} {a : AccAddress}
    (h : Assigned k s codeID a s₁) : s₁.access = s.access := by
  cases h with
  | classic =>
      ext1
      · rfl
      · rfl
      · exact s.peekAutoIncrementID_autoIncrementID_of_ne WasmStore.nextCodeID_ne_nextInstanceID
      · rfl
      · rfl
  | predictable => rfl

end Writes

section Operations

variable {w w' : World (Multistore ε) Shared}

theorem create_access {ctx : SdkContext} {sender : AccAddress} {code : Bytes}
    {access : Option AccessConfig} {out : UInt64 × Bytes}
    (h : k.create ctx (some sender) code access .default w = (.ok out, w')) :
    AccessStep k.codec sender w.ms.wasm.access w'.ms.wasm.access := by
  obtain ⟨addr, params, fallback, unpacked, haddr, hparams, hfallback, hallowed, -, hstore, -⟩ :=
    create_ok h
  obtain rfl := Option.some.inj haddr
  obtain ⟨allowed, hupload, hboth⟩ := except_bind_ok_iff.mp hallowed
  replace hboth : (allowed && (access.getD fallback).isSubset fallback) = true := by
    simpa [pure, Except.pure] using hboth
  obtain ⟨rfl, hsubset⟩ := Bool.and_eq_true_iff.mp hboth
  rw [hstore, WasmStore.access_upload]
  exact .upload params fallback _ _ hparams hupload hfallback hsubset

/-- A new instance is written as a contract. -/
theorem newInstance_effect {ctx : SdkContext} {codeID : UInt64} {creator admin : Option AccAddress}
    {initMsg : Bytes} {label : String} {deposit : Coins.CoinSet} {g : AddressGenerator}
    {policy : AuthorizationPolicy} {contract : AccAddress} {info : ContractInfo}
    {res : ContractResponse C}
    (h : k.newInstance ctx codeID creator admin initMsg label deposit g policy w
      = (.ok (contract, info, res), w')) :
    w'.ms.wasm.access = w.ms.wasm.access.setContract contract info := by
  obtain ⟨addr, codeInfo, s₁, -, -, -, -, hassigned, -, hregistry, -⟩ := newInstance_ok h
  rw [WasmStore.access_of_registry hregistry, ← hassigned.access_eq]
  exact WasmStore.access_storeContractInfo _ _ _

theorem newInstance_access {ctx : SdkContext} {codeID : UInt64} {sender : AccAddress}
    {admin : Option AccAddress} {initMsg : Bytes} {label : String} {deposit : Coins.CoinSet}
    {g : AddressGenerator} {out : AccAddress × ContractInfo × ContractResponse C}
    (h : k.newInstance ctx codeID (some sender) admin initMsg label deposit g .default w
      = (.ok out, w')) : AccessStep k.codec sender w.ms.wasm.access w'.ms.wasm.access := by
  obtain ⟨contract, info, res⟩ := out
  obtain ⟨addr, codeInfo, s₁, haddr, hcode, hallowed, hnew, hassigned, hinfo, -⟩ := newInstance_ok h
  obtain rfl := Option.some.inj haddr
  rw [newInstance_effect h]
  refine .instantiate contract info codeInfo ?_ hallowed hnew hassigned.length_eq hinfo.creator
  rw [hinfo.codeID]
  exact hcode

/-- A migration writes the record of the contract. -/
theorem migrateContract_effect {ctx : SdkContext} {contract caller : AccAddress} {codeID : UInt64}
    {msg : Bytes} {policy : AuthorizationPolicy} {info : ContractInfo}
    {res : Option (ContractResponse C)}
    (h : k.migrateContract ctx contract caller codeID msg policy w = (.ok (info, res), w')) :
    w'.ms.wasm.access = w.ms.wasm.access.setContract contract info := by
  obtain ⟨old, admin, codeInfo, last, position, -, -, -, -, -, -, -, -, hregistry, -, -⟩ :=
    migrateContract_ok h
  rw [WasmStore.access_of_registry hregistry]
  exact WasmStore.access_storeContractInfo _ _ _

theorem migrateContract_access {ctx : SdkContext} {contract sender : AccAddress} {codeID : UInt64}
    {msg : Bytes} {out : ContractInfo × Option (ContractResponse C)}
    (h : k.migrateContract ctx contract sender codeID msg .default w = (.ok out, w')) :
    AccessStep k.codec sender w.ms.wasm.access w'.ms.wasm.access := by
  obtain ⟨info, res⟩ := out
  obtain ⟨old, admin, codeInfo, last, position, hold, hadmin, hmodify, hcode, hallowed, -, -, hinfo,
    -⟩ := migrateContract_ok h
  obtain rfl : admin = some sender := of_decide_eq_true hmodify
  rw [migrateContract_effect h]
  refine .migrate contract old info codeInfo hold hadmin ?_ hallowed
    ⟨hinfo.creator, hinfo.admin, hinfo.label⟩
  rw [hinfo.codeID]
  exact hcode

theorem setContractAdmin_access {contract sender : AccAddress} {newAdmin : Option AccAddress}
    {u : Unit} (h : k.setContractAdmin contract sender newAdmin .default w = (.ok u, w')) :
    AccessStep k.codec sender w.ms.wasm.access w'.ms.wasm.access := by
  obtain ⟨old, admin, hold, hadmin, hmodify, hstore, -⟩ := modifyContract_ok h
  obtain rfl : admin = some sender := of_decide_eq_true hmodify
  rw [hstore, WasmStore.access_storeContractInfo]
  exact .administer contract old (k.codec.stringOf newAdmin) old.label hold hadmin

theorem setContractLabel_access {contract sender : AccAddress} {newLabel : String} {u : Unit}
    (h : k.setContractLabel contract sender newLabel .default w = (.ok u, w')) :
    AccessStep k.codec sender w.ms.wasm.access w'.ms.wasm.access := by
  obtain ⟨old, admin, hold, hadmin, hmodify, hstore, -⟩ := modifyContract_ok h
  obtain rfl : admin = some sender := of_decide_eq_true hmodify
  rw [hstore, WasmStore.access_storeContractInfo]
  exact .administer contract old old.admin newLabel hold hadmin

theorem setAccessConfig_access {codeID : UInt64} {sender : AccAddress} {config : AccessConfig}
    {u : Unit} (h : k.setAccessConfig codeID sender config .default w = (.ok u, w')) :
    AccessStep k.codec sender w.ms.wasm.access w'.ms.wasm.access := by
  obtain ⟨info, params, creator, hinfo, hparams, hcreator, hmodify, hstore, -⟩ :=
    setAccessConfig_ok h
  obtain ⟨rfl, hsubset⟩ : creator = sender ∧
      config.permission.isSubset params.instantiateDefaultPermission = true :=
    of_decide_eq_true hmodify
  rw [hstore, WasmStore.access_storeCodeInfo]
  exact .configure codeID info params config hinfo hcreator hparams hsubset

/-- **What is served under the default policy is a turn of the signer**, unless the signer is the
authority in force. -/
theorem Served.access {α : Type} {lib : MsgLib} {ctx : SdkContext} {msg : WasmMsg} {x : KeeperM ε α}
    {a : α} (hserved : Served k lib ctx msg x) (hne : ¬ k.IsAuthority ctx msg.signer)
    (hpolicy : ctx.policy = .default) (h : x w = (.ok a, w')) :
    ∃ sender, k.codec.accAddressFromBech32 msg.signer = .ok sender ∧
      AccessStep k.codec sender w.ms.wasm.access w'.ms.wasm.access := by
  have hselect : k.selectAuthorizationPolicy ctx msg.signer = .default :=
    (selectAuthorizationPolicy_of_not hne).trans hpolicy
  cases hserved with
  | create sender code access hsender =>
      rw [hselect] at h
      exact ⟨sender, hsender, create_access h⟩
  | newInstance sender admin codeID label initMsg deposit g hsender =>
      rw [hselect] at h
      exact ⟨sender, hsender, newInstance_access h⟩
  | migrateContract sender contract codeID payload hsender =>
      rw [hselect] at h
      exact ⟨sender, hsender, migrateContract_access h⟩
  | setContractAdmin sender contract newAdmin hsender =>
      rw [hselect] at h
      exact ⟨sender, hsender, setContractAdmin_access h⟩
  | setContractLabel sender contract newLabel hsender =>
      rw [hselect] at h
      exact ⟨sender, hsender, setContractLabel_access h⟩
  | setAccessConfig sender codeID config hsender =>
      rw [hselect] at h
      exact ⟨sender, hsender, setAccessConfig_access h⟩
  | setParams params hauthority => exact absurd hauthority hne
  | editUploadAddresses edit hauthority => exact absurd hauthority hne
  | pinCodes codeIDs hauthority => exact absurd hauthority hne
  | unpinCodes codeIDs hauthority => exact absurd hauthority hne

end Operations

/-! ## Calls without authority -/

/-- The relation of stores that runs of the machine make. -/
def AccessRel (codec : AddressCodec) (S : AccAddress → Prop) (s s' : WasmStore) : Prop :=
  AccessRun codec S s.access s'.access

instance accessRel_tracks (codec : AddressCodec) (S : AccAddress → Prop) :
    Tracks (AccessRel codec S) where
  registry h := by
    rw [AccessRel, WasmStore.access_of_registry h]
    exact Turns.refl
  asyncAcks _ _ := Turns.refl
  trans h h' := Turns.trans h h'

/-- On the context, only `A` have the authority of governance. -/
def Governed (k : Keeper ε C) (A : String → Prop) (ctx : SdkContext) : Prop :=
  ∀ actor, k.IsAuthority ctx actor → A actor

theorem Governed.congr {A : String → Prop} {ctx ctx' : SdkContext} (h : Governed k A ctx)
    (heq : ctx'.consensusAuthority = ctx.consensusAuthority) : Governed k A ctx' :=
  fun actor hactor => h actor ((isAuthority_congr heq).mp hactor)

/-- Those with authority are no contracts and have not the length of contract addresses. -/
def AuthorityApart (k : Keeper ε C) (A : String → Prop) (s : WasmStore) : Prop :=
  ∀ actor a, A actor → k.codec.accAddressFromBech32 actor = .ok a →
    a.bytes.length ≠ 32 ∧ s.getContractInfo a = none

/-- Another module may route a message in the name of the account. -/
def Represented (k : Keeper ε C) (m : Messenger ε C) (who : AccAddress) : Prop :=
  ∃ contract msg, m.Reenters contract (.message msg) ∧
    k.codec.accAddressFromBech32 msg.signer = .ok who

section Runs

variable {A : String → Prop} {S : AccAddress → Prop} {s s' : WasmStore}

theorem AccessRel.authorityApart (h : AccessRel k.codec S s s') (hs : AuthorityApart k A s) :
    AuthorityApart k A s' := by
  intro actor a hactor ha
  obtain ⟨hlength, hnone⟩ := hs actor a hactor ha
  exact ⟨hlength, Turns.invariant (P := fun t => t.contracts a = none)
    (fun _ _ _ hturn ht => hturn.contracts_eq_none ht hlength) h hnone⟩

theorem AccessRel.isSome_contract (h : AccessRel k.codec S s s') {a : AccAddress}
    (ha : (s.getContractInfo a).isSome) : (s'.getContractInfo a).isSome :=
  Turns.invariant (P := fun t => (t.contracts a).isSome)
    (fun _ _ _ hturn ht => hturn.isSome_contracts ht) h ha

/-- The relation that a call keeps, made where the authority is apart. -/
def UserRel (k : Keeper ε C) (A : String → Prop) (S : AccAddress → Prop) (s s' : WasmStore) :
    Prop :=
  AuthorityApart k A s → AccessRel k.codec S s s'

instance userRel_tracks (k : Keeper ε C) (A : String → Prop) (S : AccAddress → Prop) :
    Tracks (UserRel k A S) where
  registry h _ := Tracks.registry h
  asyncAcks s packets _ := Tracks.asyncAcks s packets
  trans h h' hs := Tracks.trans (h hs) (h' ((h hs).authorityApart hs))

/-- What is known of a response in such a run: its contract is stored, its context carries the
default policy, and the authority on it is apart. -/
structure OfUser (k : Keeper ε C) (A : String → Prop) (r : Response SdkContext C)
    (w : World (Multistore ε) Shared) : Prop where
  stored : (w.ms.wasm.getContractInfo r.contract).isSome
  policy : r.ctx.policy = .default
  governed : Governed k A r.ctx
  apart : AuthorityApart k A w.ms.wasm

/-- What is asked of the parts of such a run. -/
abbrev userConduct (k : Keeper ε C) (A : String → Prop) (S : AccAddress → Prop) :
    Conduct (Multistore ε) Shared SdkContext C Guarded :=
  storeConduct (UserRel k A S) (fun _ _ => True) (OfUser k A)

/-- What is served for the contract is not signed by the authority. -/
theorem OfUser.not_isAuthority {r : Response SdkContext C} {w : World (Multistore ε) Shared}
    (hr : OfUser k A r w) (hrouted : m.RoutesNoneOf A) {msg : WasmMsg}
    (hsent : m.Sends k r.contract msg) : ¬ k.IsAuthority r.ctx msg.signer := by
  intro hauthority
  have hA : A msg.signer := hr.governed _ hauthority
  rcases hsent with hsigner | hreenters
  · exact Option.isSome_iff_ne_none.mp hr.stored (hr.apart _ _ hA hsigner).2
  · exact hrouted _ _ hreenters hA

/-- Who signs what is served for a contract is that contract, or is represented. -/
theorem Messenger.Sends.mayAct {contract sender : AccAddress} {msg : WasmMsg}
    (hsent : m.Sends k contract msg)
    (hsender : k.codec.accAddressFromBech32 msg.signer = .ok sender)
    (hrep : ∀ a, Represented k m a → S a) (hstored : (s.getContractInfo contract).isSome) :
    MayAct S s.access sender := by
  rcases hsent with hsigner | hreenters
  · obtain rfl : contract = sender := Except.ok.inj (hsigner.symm.trans hsender)
    exact .inr hstored
  · exact .inl (hrep sender ⟨contract, msg, hreenters, hsender⟩)

/-- The policy of the calls below a message that is not signed by the authority. -/
theorem callContext_policy {ctx : SdkContext} {msg : WasmMsg}
    (hne : ¬ k.IsAuthority ctx msg.signer) (hpolicy : ctx.policy = .default) :
    (k.callContext ctx msg).policy = .default := by
  have hroot : Inherits k none (k.callContext ctx msg).policy :=
    policy_callContext hne (.inl hpolicy)
  rcases hroot with hdefault | ⟨_, hnone, -⟩
  · exact hdefault
  · cases hnone

/-- A response that comes later in the run. -/
theorem Answered.ofUser {ctx : SdkContext} {r : Response SdkContext C}
    {w w' : World (Multistore ε) Shared} (ha : Answered k ctx r w')
    (hpolicy : ctx.policy = .default) (hgoverned : Governed k A ctx)
    (hw : AuthorityApart k A w.ms.wasm) (hafter : UserRel k A S w.ms.wasm w'.ms.wasm) :
    OfUser k A r w' := by
  refine ⟨ha.stored, ?_, ?_, (hafter hw).authorityApart hw⟩
  · rw [ha.ctx_eq]
    exact hpolicy
  · rw [ha.ctx_eq]
    exact hgoverned

/-- **The messages and replies of contracts are turns of the contracts**, or of accounts in whose
name other modules route messages. -/
theorem chain_user (hrouted : m.RoutesNoneOf A) (hrep : ∀ a, Represented k m a → S a) :
    (k.chain m).Sound (userConduct k A S) := by
  refine chain_served ?_ ?_ (fun _ _ _ _ _ _ _ => trivial) ?_ ?_
  · intro r w hr msg hsent β x w' hafter hserved a w'' hx hapart
    obtain ⟨sender, hsender, hstep⟩ :=
      hserved.access (hr.not_isAuthority hrouted hsent) hr.policy hx
    have hstored := (hafter hr.apart).isSome_contract hr.stored
    exact Turns.single (hsent.mayAct hsender hrep hstored) hstep
  · intro r w hr w' hafter msg out w'' hx
    exact dispatchIBC_tracks hx
  · intro r w hr msg hsent r' w' hafter ha
    exact ha.ofUser (callContext_policy (hr.not_isAuthority hrouted hsent) hr.policy)
      (hr.governed.congr (consensusAuthority_callContext k r.ctx msg)) hr.apart hafter
  · intro r w hr r' w' hafter ha
    exact ha.ofUser hr.policy hr.governed hr.apart hafter

end Runs

/-- A call of an entry point by an account among `S`, or by none, without the policy of
governance. -/
def UserEntry (S : AccAddress → Prop) : EntryCall → Prop
  | .instantiate _ _ creator _ _ _ _ _ policy => policy = .default ∧ ∀ a, creator = some a → S a
  | .migrate _ _ caller _ _ policy => policy = .default ∧ S caller
  | call => call.ctx.policy = .default

/-- A call of an account among `S`, or of none, without the authority of governance, which only `A`
have. -/
def UserCall (k : Keeper ε C) (A : String → Prop) (S : AccAddress → Prop) : KeeperCall → Prop
  | .create _ creator _ _ policy => policy = .default ∧ ∀ a, creator = some a → S a
  | .setContractAdmin _ caller _ policy => policy = .default ∧ S caller
  | .setContractLabel _ caller _ policy => policy = .default ∧ S caller
  | .setAccessConfig _ caller _ policy => policy = .default ∧ S caller
  | .setContractInfoExtension .. | .pinCode _ | .unpinCode _ => False
  | .top (.message ctx msg) => Governed k A ctx ∧ ¬ k.IsAuthority ctx msg.signer ∧
      ctx.policy = .default ∧ ∀ a, k.codec.accAddressFromBech32 msg.signer = .ok a → S a
  | .top (.entry call) => Governed k A call.ctx ∧ UserEntry S call

section Calls

variable {A : String → Prop} {S : AccAddress → Prop} {w w' : World (Multistore ε) Shared}

/-- A script whose responses are those of users keeps the relation. -/
theorem Script.Sound.user {α : Type} {s : KeeperScript ε C α} {a : α} (hrouted : m.RoutesNoneOf A)
    (hrep : ∀ a, Represented k m a → S a) (hs : s.Sound (userConduct k A S) w)
    (h : s.run (k.handler m) w = (.ok a, w')) : UserRel k A S w.ms.wasm w'.ms.wasm :=
  Script.Sound.run (D := userConduct k A S) storeConduct_plain.toLawful
    (fun r w hr => storeConduct_plain.toLawful.handlerAt (chain_user hrouted hrep) _ r w hr) hs a
      w' h

/-- A script whose responses are answers on a context with the default policy. -/
theorem Script.Sound.answered {α : Type} {s : KeeperScript ε C α} {ctx : SdkContext}
    (hpolicy : ctx.policy = .default) (hgoverned : Governed k A ctx)
    (hapart : AuthorityApart k A w.ms.wasm)
    (hs : s.Sound { userConduct k A S with response := fun r w' => Answered k ctx r w' } w) :
    s.Sound (userConduct k A S) w :=
  hs.imp storeConduct_plain.toLawful (fun _ _ _ h => h) fun _ _ hafter ha =>
    ha.ofUser hpolicy hgoverned hapart hafter

/-- A message of an account. -/
theorem msgServer_user {ctx : SdkContext} {msg : WasmMsg} (hgoverned : Governed k A ctx)
    (hne : ¬ k.IsAuthority ctx msg.signer) (hpolicy : ctx.policy = .default)
    (hS : ∀ a, k.codec.accAddressFromBech32 msg.signer = .ok a → S a)
    (hapart : AuthorityApart k A w.ms.wasm) :
    (k.msgServer m.lib ctx msg).Sound (userConduct k A S) w := by
  have hserved : (k.msgServer m.lib ctx msg).Sound { userConduct k A S with
      response := fun r w' => Answered k (k.callContext ctx msg) r w' } w := by
    refine msgServer_served (fun w₁ hafter hserved a w₂ hx hapart₁ => ?_) (fun _ _ => trivial)
      fun _ _ ha => ha
    obtain ⟨sender, hsender, hstep⟩ := hserved.access hne hpolicy hx
    exact Turns.single (.inl (hS sender hsender)) hstep
  exact hserved.answered (callContext_policy hne hpolicy)
    (hgoverned.congr (consensusAuthority_callContext k ctx msg)) hapart

/-- The policy of the calls below an entry point. -/
theorem UserEntry.policy {call : EntryCall} (h : UserEntry S call) :
    call.callContext.policy = .default := by
  cases call with
  | instantiate =>
      obtain ⟨rfl, -⟩ := h
      rfl
  | migrate =>
      obtain ⟨rfl, -⟩ := h
      rfl
  | _ => exact h

/-- An entry point leaves the consensus parameters of its context alone. -/
theorem EntryCall.consensusAuthority_callContext (call : EntryCall) :
    call.callContext.consensusAuthority = call.ctx.consensusAuthority := by
  cases call <;> rfl

/-- What an entry point asks of the keeper. -/
theorem UserEntry.asks {α : Type} {call : EntryCall} (h : UserEntry S call) {x : KeeperM ε α}
    (hasks : call.Asks k x) {a : α} (hx : x w = (.ok a, w')) :
    AccessRel k.codec S w.ms.wasm w'.ms.wasm := by
  cases hasks with
  | newInstance ctx codeID creator =>
      obtain ⟨rfl, hS⟩ := h
      obtain ⟨addr, -, -, hcreator, -⟩ := newInstance_ok hx
      subst hcreator
      exact Turns.single (.inl (hS addr rfl)) (newInstance_access hx)
  | migrateContract =>
      obtain ⟨rfl, hS⟩ := h
      exact Turns.single (.inl hS) (migrateContract_access hx)
  | receive | receive2 => exact Tracks.registry ((runReceive_stays k _ _ _).confined hx).registry
  | storeAsyncAckPacket =>
      obtain rfl := writeStore_ok_iff.mp hx
      exact Tracks.asyncAcks _ _

/-- An entry point. -/
theorem EntryCall.user {call : EntryCall} (hgoverned : Governed k A call.ctx) (h : UserEntry S call)
    (hapart : AuthorityApart k A w.ms.wasm) : (call.script k).Sound (userConduct k A S) w := by
  have hserved : (call.script k).Sound { userConduct k A S with
      response := fun r w' => Answered k call.callContext r w' } w :=
    EntryCall.served (fun _ hasks _ _ hx _ => h.asks hasks hx) (fun _ _ => trivial)
      fun _ _ ha => ha
  exact hserved.answered h.policy (hgoverned.congr call.consensusAuthority_callContext) hapart

/-- **A call without authority is a run of the machine.** -/
theorem UserCall.access {call : KeeperCall} (hrouted : m.RoutesNoneOf A)
    (hrep : ∀ a, Represented k m a → S a) (h : UserCall k A S call) {u : Unit}
    (hrun : call.run k m w = (.ok u, w')) : UserRel k A S w.ms.wasm w'.ms.wasm := by
  intro hapart
  cases call with
  | create ctx creator wasmCode access policy =>
      obtain ⟨rfl, hS⟩ := h
      obtain ⟨out, w₁, hcreate, hret⟩ := GoM.bind_ok_iff.mp hrun
      obtain ⟨-, rfl⟩ := GoM.pure_ok_iff.mp hret
      obtain ⟨addr, -, -, -, hcreator, -⟩ := create_ok hcreate
      subst hcreator
      exact Turns.single (.inl (hS addr rfl)) (create_access hcreate)
  | setContractAdmin contract caller newAdmin policy =>
      obtain ⟨rfl, hS⟩ := h
      exact Turns.single (.inl hS) (setContractAdmin_access hrun)
  | setContractLabel contract caller newLabel policy =>
      obtain ⟨rfl, hS⟩ := h
      exact Turns.single (.inl hS) (setContractLabel_access hrun)
  | setContractInfoExtension contract ext => exact absurd h id
  | setAccessConfig codeID caller config policy =>
      obtain ⟨rfl, hS⟩ := h
      exact Turns.single (.inl hS) (setAccessConfig_access hrun)
  | pinCode codeID => exact absurd h id
  | unpinCode codeID => exact absurd h id
  | top call =>
      cases call with
      | entry call =>
          obtain ⟨hgoverned, hentry⟩ := h
          exact (EntryCall.user hgoverned hentry hapart).user hrouted hrep hrun hapart
      | message ctx msg =>
          obtain ⟨hgoverned, hne, hpolicy, hS⟩ := h
          have hserved := msgServer_user (m := m) hgoverned hne hpolicy hS hapart
          exact (discard_sound hserved).user hrouted hrep hrun hapart

end Calls

/-! ## Runs without authority -/

section Runs

variable {A : String → Prop} {S : AccAddress → Prop} {st st' : ChainState ε}

theorem Reached.access (h : Reached k m (UserCall k A S) st st') (hrouted : m.RoutesNoneOf A)
    (hrep : ∀ a, Represented k m a → S a) (hapart : AuthorityApart k A st.ms.wasm) :
    AccessRun k.codec S st.ms.wasm.access st'.ms.wasm.access :=
  Reached.tracks (R := UserRel k A S) (fun _ hcall _ _ _ hrun => hcall.access hrouted hrep hrun) h
    hapart

end Runs

/-- The two accounts. -/
def firstAccount : AccAddress := .twenty 1
/-- A chain whose authority has an address, and whose checksums are not empty. -/
def estateKeeper : Keeper Unit Unit :=
  { plainKeeper Unit with
    authority := markedText leakAuthority
    wasmVM := { plainVM Unit with checksum := List.cons 0 } }

/-- The state after a message. -/
def estateAfter (msg : WasmMsg) (st : ChainState Unit) : ChainState Unit :=
  let out := (KeeperCall.top (.message ibcCtx msg)).run estateKeeper sendMessenger
    (st.world () (.infinite 0) none)
  ⟨out.2.ms, out.2.shared.vm⟩

/-- The chain before. -/
def estateInitial : ChainState Unit := .initial (some defaultParams) ()

/-- The first account has stored a code. -/
def estateStored : ChainState Unit :=
  estateAfter (.storeCode (markedText firstAccount) [1] none) estateInitial

/-- It has made a contract of it. -/
def estateStart : ChainState Unit :=
  estateAfter (.instantiateContract (markedText firstAccount) (markedText firstAccount) 1 "label" []
    []) estateStored

/-- Messages of the first account lead to its contract. -/
theorem estateStart_reached {P : KeeperCall → Prop}
    (hP : ∀ msg : WasmMsg, msg.signer = markedText firstAccount → P (.top (.message ibcCtx msg))) :
    Reached estateKeeper sendMessenger P estateInitial estateStart := by
  refine Relation.ReflTransGen.tail (.single (.ok (u := ()) (hP _ rfl) (GoM.ok_of_toOption ?_)))
    (.ok (u := ()) (hP _ rfl) (GoM.ok_of_toOption ?_))
  · decide +kernel
  · decide +kernel

end Wasmd
