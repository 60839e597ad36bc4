import Wasmd.Keeper.Addresses
import Wasmd.Keeper.Privilege
import Wasmd.Keeper.Snapshot

/-!
# What runs keep for an export

An export shows the store as the iterators read its keys, and takes the bytecode from the VM.  It is
complete if every key of a family is one the iterators can read, and if the VM has every code.

* `FamilyChange` — what a change does to the records and the storage of contracts.
* `Exportable` — the invariant.  `Reached.exportable` — it holds in every state that calls lead to,
  none of them simulated.
* `Reached.codesNumbered` — the codes are numbered from one on, unless their sequence has wrapped
  around.
* `OriginsBelow` — every contract is an instance below the sequence, or its address is a predictable
  one.  `OriginsBelow.free` — the next classic address of any code is not taken.
-/

namespace Wasmd

open ByteStore KVStore Effects Gas

variable {ε C : Type} {k : Keeper ε C} {m : Messenger ε C} {sim : Bool} {d d' : Durable}
  {s s' : WasmStore}

/-! ## The records and the storage of contracts -/

/-- The keys of the contracts are made of their addresses. -/
def WasmStore.ContractKeys (s : WasmStore) : Prop :=
  ∀ (key : Bytes) (info : ContractInfo), s.contracts[key]? = some info →
    ∃ a, key = contractAddressKey a

theorem WasmStore.ContractKeys.store (h : s.ContractKeys) (a : AccAddress) (info : ContractInfo) :
    (s.storeContractInfo a info).ContractKeys := by
  intro key info' hkey
  by_cases heq : key = contractAddressKey a
  · exact ⟨a, heq⟩
  · exact h key info' ((getElem?_insert_of_ne _ _ heq).symm.trans hkey)

/-- All storage is that of stored contracts, and no contract has stored under the empty key. -/
def WasmStore.StateOwned (s : WasmStore) : Prop :=
  ∀ key : Bytes, (s.contractState[key]?).isSome →
    ∃ a own, (s.getContractInfo a).isSome ∧ own ≠ [] ∧ key = contractStorePrefix a ++ own

/-- **What a change does to the records and the storage of contracts.** -/
inductive FamilyChange (k : Keeper ε C) (s s' : WasmStore) : Prop
  | same (hcontracts : s'.contracts = s.contracts) (hstate : s'.contractState = s.contractState)
  /-- A stored contract ran. -/
  | ran (a : AccAddress) (hstored : (s.getContractInfo a).isSome)
      (hcontracts : s'.contracts = s.contracts) (hothers : OthersKept a s s')
  /-- A new contract was given an address. -/
  | new (codeID : UInt64) (a : AccAddress) (info : ContractInfo) (s₁ : WasmStore)
      (haddr : Assigned k s codeID a s₁) (hnext : s'.nextInstanceID = s₁.nextInstanceID)
      (hcontracts : s'.contracts = (s.storeContractInfo a info).contracts)
      (hothers : OthersKept a s s')
  /-- The record of a stored contract was replaced. -/
  | replaced (a : AccAddress) (info : ContractInfo) (hstored : (s.getContractInfo a).isSome)
      (hcontracts : s'.contracts = (s.storeContractInfo a info).contracts)
      (hothers : OthersKept a s s')

theorem Change.family (h : Change k sim d d') : FamilyChange k d.store d'.store := by
  cases h with
  | ran contract hstored hregistry hothers =>
      exact .ran contract hstored (congrArg (·.contracts) hregistry) hothers
  | files hstore => exact .same (by rw [hstore]) (by rw [hstore])
  | create creator config code hstore => exact .same (by rw [hstore]; rfl) (by rw [hstore]; rfl)
  | setAccessConfig codeID info config hinfo hstore =>
      exact .same (by rw [hstore]; rfl) (by rw [hstore]; rfl)
  | instantiate ctx codeID codeInfo creator contract admin label info initMsg s₁ hnew hcode haddr
      hinfo hregistry hothers =>
      have hcontracts : s₁.contracts = d.store.contracts := by cases haddr <;> rfl
      refine .new codeID contract info s₁ haddr (congrArg (·.nextInstanceID) hregistry) ?_ hothers
      refine (congrArg (·.contracts) hregistry).trans ?_
      exact congrArg (·.insert (contractAddressKey contract) info) hcontracts
  | migrate codeID codeInfo contract old info last position msg hold hcode hinfo hlast hregistry
      hothers =>
      exact .replaced contract info (Option.isSome_of_eq_some hold)
        (congrArg (·.contracts) hregistry) hothers
  | modify contract old info hold hinfo hstore =>
      exact .replaced contract info (Option.isSome_of_eq_some hold) (congrArg (·.contracts) hstore)
        (.of_eq (congrArg (·.contractState) hstore))
  | pin codeID hcode hstore => exact .same (by rw [hstore]) (by rw [hstore])
  | unpin codeID hstore => exact .same (by rw [hstore]) (by rw [hstore])
  | params params hstore => exact .same (by rw [hstore]) (by rw [hstore])
  | acknowledged contract port channel sequence packet ack hload hstore =>
      exact .same (by rw [hstore]; rfl) (by rw [hstore]; rfl)

namespace FamilyChange

theorem contractKeys (h : FamilyChange k s s') (hs : s.ContractKeys) : s'.ContractKeys := by
  unfold WasmStore.ContractKeys
  cases h with
  | same hcontracts => rwa [hcontracts]
  | ran a _ hcontracts => rwa [hcontracts]
  | new codeID a info s₁ _ _ hcontracts => rw [hcontracts]; exact hs.store a info
  | replaced a info _ hcontracts => rw [hcontracts]; exact hs.store a info

/-- Contracts are never removed. -/
theorem contract_stays (h : FamilyChange k s s') {a : AccAddress}
    (ha : (s.getContractInfo a).isSome) : (s'.getContractInfo a).isSome := by
  unfold WasmStore.getContractInfo at ha ⊢
  cases h with
  | same hcontracts => rwa [hcontracts]
  | ran b _ hcontracts => rwa [hcontracts]
  | new codeID b info s₁ _ _ hcontracts => rw [hcontracts]; exact isSome_insert ha
  | replaced b info _ hcontracts => rw [hcontracts]; exact isSome_insert ha

/-- A contract that is stored was there before, or is the new one. -/
theorem contract_before (h : FamilyChange k s s') {a : AccAddress}
    (ha : (s'.getContractInfo a).isSome) :
    (s.getContractInfo a).isSome ∨
      ∃ codeID s₁, Assigned k s codeID a s₁ ∧ s'.nextInstanceID = s₁.nextInstanceID := by
  unfold WasmStore.getContractInfo at ha ⊢
  cases h with
  | same hcontracts => exact .inl (hcontracts ▸ ha)
  | ran b _ hcontracts => exact .inl (hcontracts ▸ ha)
  | new codeID b info s₁ haddr hnext hcontracts =>
      by_cases hab : a = b
      · subst hab
        exact .inr ⟨codeID, s₁, haddr, hnext⟩
      · rw [hcontracts, show (s.storeContractInfo b info).contracts[contractAddressKey a]? = _ from
          getElem?_insert_of_ne _ _ fun hk => hab (contractKey_injective hk)] at ha
        exact .inl ha
  | replaced b info hstored hcontracts =>
      by_cases hab : a = b
      · subst hab
        exact .inl hstored
      · rw [hcontracts, show (s.storeContractInfo b info).contracts[contractAddressKey a]? = _ from
          getElem?_insert_of_ne _ _ fun hk => hab (contractKey_injective hk)] at ha
        exact .inl ha

/-- What is stored after a change lies where it lay before, or behind the prefix of the contract
that wrote it. -/
theorem stateOwned (h : FamilyChange k s s') (hs : s.StateOwned) : s'.StateOwned := by
  have hwrote : ∀ a, OthersKept a s s' → (s'.getContractInfo a).isSome → s'.StateOwned := by
    intro a hothers hstored key hkey
    rcases hothers.fresh key hkey with hold | ⟨own, hne, heq⟩
    · obtain ⟨b, own, hb, hown⟩ := hs key hold
      exact ⟨b, own, h.contract_stays hb, hown⟩
    · exact ⟨a, own, hstored, hne, heq⟩
  have hnew : ∀ (a : AccAddress) (info : ContractInfo),
      s'.contracts = (s.storeContractInfo a info).contracts → (s'.getContractInfo a).isSome := by
    intro a info hcontracts
    rw [WasmStore.getContractInfo, hcontracts]
    exact Option.isSome_of_eq_some (getElem?_insert_self _ _ _)
  cases h with
  | same hcontracts hstate =>
      intro key hkey
      rw [hstate] at hkey
      obtain ⟨a, own, ha, hown⟩ := hs key hkey
      refine ⟨a, own, ?_, hown⟩
      rwa [WasmStore.getContractInfo, hcontracts]
  | ran a hstored hcontracts hothers =>
      refine hwrote a hothers ?_
      rwa [WasmStore.getContractInfo, hcontracts]
  | new codeID a info s₁ _ _ hcontracts hothers => exact hwrote a hothers (hnew a info hcontracts)
  | replaced a info _ hcontracts hothers => exact hwrote a hothers (hnew a info hcontracts)

end FamilyChange

/-! ## Codes and marks -/

theorem WasmStore.CodeKeys.store (h : s.CodeKeys) (id : UInt64) (info : CodeInfo) :
    (s.storeCodeInfo id info).CodeKeys := by
  intro key info' hkey
  by_cases heq : key = codeKey id
  · exact ⟨id, heq⟩
  · exact h key info' ((getElem?_insert_of_ne _ _ heq).symm.trans hkey)

theorem CodesChange.codeKeys (h : CodesChange s s') (hs : s.CodeKeys) : s'.CodeKeys := by
  unfold WasmStore.CodeKeys
  cases h with
  | same hcodes => rwa [hcodes]
  | create info hcodes => rw [hcodes]; exact hs.store _ _
  | setAccessConfig codeID info config _ hcodes => rw [hcodes]; exact hs.store _ _

/-- Codes are never removed. -/
theorem CodesChange.code_stays (h : CodesChange s s') {id : UInt64}
    (hid : (s.getCodeInfo id).isSome) : (s'.getCodeInfo id).isSome := by
  unfold WasmStore.getCodeInfo at hid ⊢
  cases h with
  | same hcodes => rwa [hcodes]
  | create info hcodes => rw [hcodes]; exact isSome_insert hid
  | setAccessConfig codeID info config _ hcodes => rw [hcodes]; exact isSome_insert hid

theorem CoreChange.params_isSome (h : CoreChange k s s') (hs : s.params.isSome) :
    s'.params.isSome := by
  cases h with
  | same h => rwa [show s'.params = s.params from congrArg (·.params) h]
  | claimed _ _ h => rwa [show s'.params = s.params from congrArg (·.params) h]
  | create _ h => rwa [show s'.params = s.params from congrArg (·.params) h]
  | setAccessConfig _ _ _ _ h => rwa [show s'.params = s.params from congrArg (·.params) h]
  | pin _ _ h => rwa [show s'.params = s.params from congrArg (·.params) h]
  | unpin _ h => rwa [show s'.params = s.params from congrArg (·.params) h]
  | params params h => exact Option.isSome_of_eq_some (congrArg (·.params) h)
  | acknowledged _ _ _ h => rwa [show s'.params = s.params from congrArg (·.params) h]

theorem CoreChange.pinsStored (h : CoreChange k s s') (hs : s.PinsStored) : s'.PinsStored := by
  have hcodes := h.codes
  have hsub : ∀ t : WasmStore, t.PinsStored → (∀ id, t.getCodeInfo id = s.getCodeInfo id) →
      s'.pinned = t.pinned → s'.PinsStored := by
    intro t ht hget hpinned key hkey
    rw [hpinned] at hkey
    obtain ⟨id, hid, hsome⟩ := ht key hkey
    exact ⟨id, hid, hcodes.code_stays (hget id ▸ hsome)⟩
  cases h with
  | same h => exact hsub s hs (fun _ => rfl) (congrArg (·.pinned) h)
  | claimed _ _ h => exact hsub s hs (fun _ => rfl) (congrArg (·.pinned) h)
  | create _ h => exact hsub s hs (fun _ => rfl) (congrArg (·.pinned) h)
  | setAccessConfig _ _ _ _ h => exact hsub s hs (fun _ => rfl) (congrArg (·.pinned) h)
  | pin codeID hcode h => exact hsub _ (hs.mark hcode) (fun _ => rfl) (congrArg (·.pinned) h)
  | unpin codeID h => exact hsub _ (hs.unmark codeID) (fun _ => rfl) (congrArg (·.pinned) h)
  | params _ h => exact hsub s hs (fun _ => rfl) (congrArg (·.pinned) h)
  | acknowledged _ _ _ h => exact hsub s hs (fun _ => rfl) (congrArg (·.pinned) h)

/-! ## The files of the codes -/

/-- Every file of the VM is named by the checksum of its code. -/
def FilesNamed (vm : WasmVM C) (files : KVStore Bytes) : Prop :=
  ∀ key code : Bytes, files[key]? = some code → vm.checksum code = key

theorem Grows.named {vm : WasmVM C} {files files' : KVStore Bytes} (h : Grows vm files files')
    (hfiles : FilesNamed vm files) : FilesNamed vm files' := by
  induction h with
  | refl => exact hfiles
  | tail _ hstep ih =>
      obtain ⟨code, gas, -, rfl⟩ := hstep
      intro key code' hkey
      by_cases heq : key = vm.checksum code
      · rw [heq, getElem?_insert_self] at hkey
        cases hkey
        exact heq.symm
      · rw [getElem?_insert_of_ne _ _ heq] at hkey
        exact ih key code' hkey

theorem Grows.isSome {vm : WasmVM C} {files files' : KVStore Bytes} (h : Grows vm files files')
    {key : Bytes} (hkey : (files[key]?).isSome) : (files'[key]?).isSome := by
  induction h with
  | refl => exact hkey
  | tail _ hstep ih =>
      obtain ⟨code, gas, -, rfl⟩ := hstep
      exact isSome_insert ih

theorem Change.grows (h : Change k sim d d') : Grows k.wasmVM d.files d'.files := by
  have hquiet : d.Quiet d' → Grows k.wasmVM d.files d'.files := fun hq => hq.files ▸ .refl
  cases h with
  | ran _ _ _ _ hq => exact hquiet hq
  | files _ _ hgrows => exact hgrows
  | create _ _ _ _ _ _ hgrows => exact hgrows
  | setAccessConfig _ _ _ _ _ hq => exact hquiet hq
  | instantiate _ _ _ _ _ _ _ _ _ _ _ _ _ _ _ _ hq => exact hquiet hq
  | migrate _ _ _ _ _ _ _ _ _ _ _ _ _ _ hq => exact hquiet hq
  | modify _ _ _ _ _ _ hq => exact hquiet hq
  | pin _ _ _ hq => exact hquiet hq
  | unpin _ _ hq => exact hquiet hq
  | params _ _ hq => exact hquiet hq
  | acknowledged _ _ _ _ _ _ _ _ _ hfiles => exact hfiles ▸ .refl

/-- The VM has every code of the store. -/
def Durable.CodesFiled (d : Durable) : Prop :=
  ∀ id info, d.store.getCodeInfo id = some info → (d.files[info.codeHash]?).isSome

/-- A code that is stored after a change has the checksum of one stored before, or its file was
written. -/
theorem Change.codesFiled (h : Change k false d d') (hd : d.CodesFiled) : d'.CodesFiled := by
  have hgrows := h.grows
  have hsame : d'.store.codes = d.store.codes → d'.CodesFiled := by
    intro hcodes id info hinfo
    rw [WasmStore.getCodeInfo, hcodes] at hinfo
    exact hgrows.isSome (hd id info hinfo)
  have hstored : ∀ (s : WasmStore) (id : UInt64) (new : CodeInfo), s.codes = d.store.codes →
      d'.store = s.storeCodeInfo id new → (d'.files[new.codeHash]?).isSome → d'.CodesFiled := by
    intro s id new hcodes hstore hfile id' info hinfo
    rw [hstore] at hinfo
    by_cases heq : id' = id
    · rw [heq, WasmStore.getCodeInfo_storeCodeInfo_self] at hinfo
      cases hinfo
      exact hfile
    · rw [WasmStore.getCodeInfo_storeCodeInfo_of_ne _ _ heq, WasmStore.getCodeInfo, hcodes] at hinfo
      exact hgrows.isSome (hd id' info hinfo)
  cases h with
  | ran _ _ hregistry => exact hsame (congrArg (·.codes) hregistry)
  | files hstore => exact hsame (congrArg (·.codes) hstore)
  | create creator config code hstore _ hfile =>
      have hwritten := hfile.resolve_left Bool.false_ne_true
      exact hstored (d.store.autoIncrementID keySequenceCodeID).2 _ _ rfl hstore
        (Option.isSome_of_eq_some hwritten)
  | setAccessConfig codeID info config hinfo hstore =>
      exact hstored _ _ _ rfl hstore (hgrows.isSome (hd codeID info hinfo))
  | instantiate _ _ _ _ _ _ _ _ _ s₁ _ _ haddr _ hregistry =>
      have hcodes : s₁.codes = d.store.codes := by cases haddr <;> rfl
      exact hsame ((congrArg (·.codes) hregistry).trans hcodes)
  | migrate _ _ _ _ _ _ _ _ _ _ _ _ hregistry => exact hsame (congrArg (·.codes) hregistry)
  | modify _ _ _ _ _ hstore => exact hsame (congrArg (·.codes) hstore)
  | pin _ _ hstore => exact hsame (congrArg (·.codes) hstore)
  | unpin _ hstore => exact hsame (congrArg (·.codes) hstore)
  | params _ hstore => exact hsame (congrArg (·.codes) hstore)
  | acknowledged _ _ _ _ _ _ _ hstore => exact hsame (congrArg (·.codes) hstore)

/-! ## The invariant -/

/-- **An export of the state is complete**: the iterators can read every key, all storage has an
owner, and the VM has every code under its checksum. -/
structure Exportable (k : Keeper ε C) (d : Durable) : Prop where
  params : d.store.params.isSome
  codeKeys : d.store.CodeKeys
  contractKeys : d.store.ContractKeys
  pins : d.store.PinsStored
  lengths : ∀ a, (d.store.getContractInfo a).isSome → a.bytes.length = 32
  state : d.store.StateOwned
  named : FilesNamed k.wasmVM d.files
  filed : d.CodesFiled

theorem Exportable.initial (params : Params) (ext : ε) :
    Exportable k (ChainState.initial (some params) ext).durable where
  params := rfl
  codeKeys key info hkey := by cases (show (none : Option CodeInfo) = some info from hkey)
  contractKeys key info hkey := by cases (show (none : Option ContractInfo) = some info from hkey)
  pins key hkey := by cases (show (none : Option Unit) = some () from hkey)
  lengths a ha := by cases (show (none : Option ContractInfo).isSome = true from ha)
  state key hkey := by cases (show (none : Option Bytes).isSome = true from hkey)
  named key code hkey := by cases (show (none : Option Bytes) = some code from hkey)
  filed id info hinfo := by cases (show (none : Option CodeInfo) = some info from hinfo)

theorem Change.exportable (h : Change k false d d') (hd : Exportable k d) : Exportable k d' where
  params := h.core.params_isSome hd.params
  codeKeys := h.core.codes.codeKeys hd.codeKeys
  contractKeys := h.family.contractKeys hd.contractKeys
  pins := h.core.pinsStored hd.pins
  lengths a ha := by
    rcases h.family.contract_before ha with hbefore | ⟨_, _, haddr, -⟩
    · exact hd.lengths a hbefore
    · exact haddr.length_eq
  state := h.family.stateOwned hd.state
  named := h.grows.named hd.named
  filed := h.codesFiled hd.filed

theorem Changes.exportable (h : Changes k false d d') (hd : Exportable k d) : Exportable k d' := by
  induction h with
  | refl => exact hd
  | tail _ hstep ih => exact hstep.exportable ih

theorem Kept.exportable (h : Kept k false d d') (hd : Exportable k d) : Exportable k d' := by
  cases h with
  | changes h => exact h.exportable hd
  | packet d₁ packet h hd' =>
      subst hd'
      have h₁ := h.exportable hd
      exact ⟨h₁.params, h₁.codeKeys, h₁.contractKeys, h₁.pins, h₁.lengths, h₁.state,
        h₁.named, h₁.filed⟩

/-- **Every state that calls lead to can be exported**, if none of them was simulated. -/
theorem Reached.exportable {params : Params} {ext : ε} {st : ChainState ε}
    (h : Reached k m (fun call => call.simulates = false) (.initial (some params) ext) st) :
    Exportable k st.durable := by
  induction h with
  | refl => exact .initial params ext
  | tail _ hstep ih =>
      have hkept : Kept k false _ _ := hstep.moves fun call hcall hsim => by
        rw [hcall] at hsim
        cases hsim
      exact hkept.exportable ih

/-! ## The sequence of the codes -/

/-- The last id was given to a code, and the sequence of the codes went on at zero. -/
def CodeSequenceWrapped (s : WasmStore) : Prop := (s.getCodeInfo lastID).isSome

/-- The codes are numbered from one on, below the sequence. -/
structure CodesNumbered (s : WasmStore) : Prop where
  pos : 0 < s.nextCodeID
  below : CodesBelow s

theorem CodesChange.numbered (h : CodesChange s s') (hs : CodesNumbered s ∨ CodeSequenceWrapped s) :
    CodesNumbered s' ∨ CodeSequenceWrapped s' := by
  rcases hs with hs | hwrapped
  · rcases h.nextCodeID_eq with hnext | ⟨hnext, hnew⟩
    · refine .inl ⟨hnext ▸ hs.pos, fun id hid => ?_⟩
      rw [hnext]
      rcases h.code_new hid with hold | ⟨rfl, hone⟩
      · exact hs.below id hold
      · exact absurd (hone.symm.trans hnext) add_one_ne
    · by_cases hlast : s.nextCodeID = lastID
      · exact .inr (show (s'.getCodeInfo lastID).isSome from hlast ▸ hnew)
      · have hlt := lt_add_one_of_ne_last hlast
        refine .inl ⟨hnext ▸ UInt64.lt_trans hs.pos hlt, fun id hid => ?_⟩
        rw [hnext]
        rcases h.code_new hid with hold | ⟨rfl, -⟩
        · exact UInt64.lt_trans (hs.below id hold) hlt
        · exact hlt
  · exact .inr (h.code_stays hwrapped)

theorem Moments.numbered (h : Moments k d d')
    (hd : CodesNumbered d.store ∨ CodeSequenceWrapped d.store) :
    CodesNumbered d'.store ∨ CodeSequenceWrapped d'.store := by
  induction h with
  | refl => exact hd
  | tail _ hstep ih =>
      cases hstep with
      | change h => exact h.core.codes.numbered ih
      | packet packet hd' =>
          subst hd'
          exact ih.imp (fun h => ⟨h.pos, h.below⟩) id

/-- The codes are numbered from one on, unless their sequence has wrapped around. -/
theorem Reached.codesNumbered {P : KeeperCall → Prop} {params : Option Params} {ext : ε}
    {st : ChainState ε} (h : Reached k m P (.initial params ext) st)
    (hwrapped : ¬ CodeSequenceWrapped st.ms.wasm) : CodesNumbered st.ms.wasm := by
  have hstart : CodesNumbered (ChainState.initial params ext).durable.store :=
    ⟨show (0 : UInt64) < 1 by decide, (CodesStart.initial (k := k) params ext).codes.1⟩
  exact (h.moments.numbered (.inl hstart)).resolve_right hwrapped

/-! ## Where addresses come from -/

/-- No other key is hashed to a classic address. -/
def Keeper.HashesApart (k : Keeper ε C) : Prop :=
  ∀ key codeID instanceID, k.moduleAddress key = k.moduleAddress (classicKey codeID instanceID) →
    key = classicKey codeID instanceID

/-- Every contract is an instance that was numbered before, or its address is the hash of another
kind of key. -/
def OriginsBelow (k : Keeper ε C) (s : WasmStore) : Prop :=
  ∀ a, (s.getContractInfo a).isSome → ∃ key, a = k.moduleAddress key ∧
    ∀ codeID instanceID, key = classicKey codeID instanceID → instanceID < s.nextInstanceID

/-- The key of an address that was given out, and the sequence behind it. -/
theorem Assigned.origin {codeID : UInt64} {a : AccAddress} {s₁ : WasmStore}
    (h : Assigned k s codeID a s₁) : ∃ key, a = k.moduleAddress key ∧
      ∀ c i, key = classicKey c i → i = s.nextInstanceID ∧
        s₁.nextInstanceID = s.nextInstanceID + 1 := by
  cases h with
  | classic =>
      refine ⟨classicKey codeID s.nextInstanceID, rfl,
        fun c i heq => ⟨(classicKey_inj heq).2.symm, ?_⟩⟩
      exact s.peekAutoIncrementID_autoIncrementID_self keySequenceInstanceID
  | predictable hbuilt =>
      obtain ⟨haddr, hlen, -⟩ := buildContractAddressPredictable_ok hbuilt
      exact ⟨_, haddr, fun c i heq => absurd heq (predictableKey_ne_classicKey hlen _ _ _ _ _)⟩

theorem Moment.Unwrapped.origins (h : Moment.Unwrapped k d d') (hd : OriginsBelow k d.store) :
    OriginsBelow k d'.store := by
  obtain ⟨hmoment, hle⟩ := h
  have hold : ∀ a, (d.store.getContractInfo a).isSome → ∃ key, a = k.moduleAddress key ∧
      ∀ codeID instanceID, key = classicKey codeID instanceID →
        instanceID < d'.store.nextInstanceID := by
    intro a ha
    obtain ⟨key, haddr, hbelow⟩ := hd a ha
    exact ⟨key, haddr, fun c i heq => UInt64.lt_of_lt_of_le (hbelow c i heq) hle⟩
  intro a ha
  cases hmoment with
  | change h =>
      rcases h.family.contract_before ha with hbefore | ⟨codeID, s₁, haddr, hnext⟩
      · exact hold a hbefore
      · obtain ⟨key, hkey, hclassic⟩ := haddr.origin
        refine ⟨key, hkey, fun c i heq => ?_⟩
        obtain ⟨rfl, hone⟩ := hclassic c i heq
        rw [hnext, hone] at hle ⊢
        exact UInt64.lt_of_le_of_ne hle add_one_ne.symm
  | packet packet hd' =>
      subst hd'
      exact hold a ha

theorem Unwrapped.origins (h : Unwrapped k d d') (hd : OriginsBelow k d.store) :
    OriginsBelow k d'.store := by
  induction h with
  | refl => exact hd
  | tail _ hstep ih => exact hstep.origins ih

theorem Reached.originsBelow {P : KeeperCall → Prop} {params : Option Params} {ext : ε}
    {st : ChainState ε} (h : Reached k m P (.initial params ext) st)
    (hwrapped : ¬ InstanceSequenceWrapped k st.ms.wasm) : OriginsBelow k st.ms.wasm := by
  refine (h.unwrapped hwrapped).origins fun a ha => ?_
  cases (show (none : Option ContractInfo).isSome = true from ha)

/-- **The next classic address of a code is not taken.** -/
theorem OriginsBelow.free (h : OriginsBelow k s) (hhash : k.HashesApart) (codeID : UInt64) :
    s.getContractInfo (k.buildContractAddressClassic codeID s.nextInstanceID) = none := by
  rw [Option.eq_none_iff_forall_ne_some]
  intro info hinfo
  obtain ⟨key, haddr, hbelow⟩ := h _ (Option.isSome_of_eq_some hinfo)
  have hkey := hhash key codeID s.nextInstanceID haddr.symm
  exact absurd (hbelow _ _ hkey) (UInt64.lt_irrefl _)

end Wasmd
