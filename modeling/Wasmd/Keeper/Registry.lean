import Wasmd.Keeper.Change
import Wasmd.Lib.Index

/-!
# The registry of contracts

Beside the record of a contract the store holds its history and a key in each of two indices.  The
keeper derives all of them from one another when it writes.

* `Registration` — a contract as it is registered: its record, its creator and its history, which
  agree with one another.
* `HoldsRegistry s R` — the store holds exactly the registrations `R`, in every family.
* `HoldsRegistry.contractsByCode`, `HoldsRegistry.contractsByCreator` — the iterators.
* `Change.registry` — what one change does to the registry: it changes a registration, or a history
  that has no position left wraps around (`Wrapped`).
-/

namespace Wasmd

open ByteStore KVStore

variable {ε C : Type} {codec : AddressCodec} {s s' : WasmStore}

/-! ## Registrations -/

/-- A registered contract. -/
structure Registration (codec : AddressCodec) where
  info : ContractInfo
  creator : AccAddress
  history : List ContractCodeHistoryEntry
  first : ContractCodeHistoryEntry
  last : ContractCodeHistoryEntry
  head_eq : history.head? = some first
  getLast_eq : history.getLast? = some last
  creator_eq : codec.accAddressFromBech32 info.creator = .ok creator
  created_eq : first.updated = info.created
  codeID_eq : last.codeID = info.codeID

namespace Registration

/-- The key in the index by code. -/
def codeIndexKey (r : Registration codec) (a : AccAddress) : Bytes :=
  contractByCreatedSecondaryIndexKey a r.info.codeID r.last.updated

/-- The key in the index by creator. -/
def creatorIndexKey (r : Registration codec) (a : AccAddress) : Bytes :=
  contractByCreatorSecondaryIndexKey r.creator r.info.created a

/-- A contract that was just instantiated. -/
def instantiated (info : ContractInfo) (creator : AccAddress) (initMsg : Bytes)
    (hcreator : info.creator = codec.string creator) : Registration codec where
  info := info
  creator := creator
  history := [info.initialHistory initMsg]
  first := info.initialHistory initMsg
  last := info.initialHistory initMsg
  head_eq := rfl
  getLast_eq := rfl
  creator_eq := by rw [hcreator, codec.decode_string]
  created_eq := rfl
  codeID_eq := rfl

/-- The contract after a migration. -/
def migrated (r : Registration codec) (info : ContractInfo) (e : ContractCodeHistoryEntry)
    (hcreator : info.creator = r.info.creator) (hcreated : info.created = r.info.created)
    (hcode : e.codeID = info.codeID) : Registration codec where
  info := info
  creator := r.creator
  history := r.history ++ [e]
  first := r.first
  last := e
  head_eq := by rw [List.head?_append, r.head_eq]; rfl
  getLast_eq := List.getLast?_concat
  creator_eq := hcreator ▸ r.creator_eq
  created_eq := r.created_eq.trans hcreated.symm
  codeID_eq := hcode

/-- The contract with other settings. -/
def modified (r : Registration codec) (info : ContractInfo) (h : SettingsOnly r.info info) :
    Registration codec where
  info := info
  creator := r.creator
  history := r.history
  first := r.first
  last := r.last
  head_eq := r.head_eq
  getLast_eq := r.getLast_eq
  creator_eq := h.creator ▸ r.creator_eq
  created_eq := r.created_eq.trans h.created.symm
  codeID_eq := r.codeID_eq.trans h.codeID.symm

end Registration

/-! ## The store -/

/-- The store holds exactly the registrations `R`. -/
structure HoldsRegistry (s : WasmStore) (R : AccAddress → Option (Registration codec)) : Prop where
  contracts : ∀ a, s.getContractInfo a = (R a).map (·.info)
  codes : ∀ a r, R a = some r → (s.getCodeInfo r.info.codeID).isSome
  histories : s.HoldsHistories fun a => ((R a).map (·.history)).getD []
  codeIndex : Indexes s.codeIndex fun a => (R a).map (·.codeIndexKey a)
  creatorIndex : Indexes s.creatorIndex fun a => (R a).map (·.creatorIndexKey a)
  raw : ∀ key : Bytes, s.raw[key]? = none

/-- **The registry invariant**: every family of the store agrees with the records of the
contracts. -/
def Registry (codec : AddressCodec) (s : WasmStore) : Prop :=
  ∃ R : AccAddress → Option (Registration codec), HoldsRegistry s R

theorem WasmStore.HoldsHistories.congr {H : AccAddress → List ContractCodeHistoryEntry}
    (h : s.HoldsHistories H) (hhistory : s'.history = s.history) : s'.HoldsHistories H :=
  ⟨h.length_lt, fun k e => by rw [hhistory]; exact h.mem_iff k e⟩

namespace HoldsRegistry

variable {R : AccAddress → Option (Registration codec)}

theorem congr (h : HoldsRegistry s R) (hcontracts : s'.contracts = s.contracts)
    (hhistory : s'.history = s.history) (hcodeIndex : s'.codeIndex = s.codeIndex)
    (hcreatorIndex : s'.creatorIndex = s.creatorIndex) (hraw : s'.raw = s.raw)
    (hcodes : ∀ id, (s.getCodeInfo id).isSome → (s'.getCodeInfo id).isSome) :
    HoldsRegistry s' R where
  contracts a := by
    unfold WasmStore.getContractInfo
    rw [hcontracts]
    exact h.contracts a
  codes a r hr := hcodes _ (h.codes a r hr)
  histories := h.histories.congr hhistory
  codeIndex := hcodeIndex ▸ h.codeIndex
  creatorIndex := hcreatorIndex ▸ h.creatorIndex
  raw := hraw ▸ h.raw

/-- A store without contracts. -/
theorem initial (params : Option Params) :
    HoldsRegistry { WasmStore.empty with params := params }
      fun _ => (none : Option (Registration codec)) := by
  refine ⟨fun a => rfl, fun a r hr => (by cases hr), ⟨fun a => (by simp), fun k e => ?_⟩,
    KVStore.Indexes.empty, KVStore.Indexes.empty, fun key => rfl⟩
  constructor
  · intro h
    cases (show (none : Option ContractCodeHistoryEntry) = some e from h)
  · rintro ⟨a, i, -, h⟩
    cases (show (none : Option ContractCodeHistoryEntry) = some e from h)

theorem congr_registry (h : HoldsRegistry s R) (heq : s'.registry = s.registry) :
    HoldsRegistry s' R := by
  refine h.congr (congrArg (·.contracts) heq) (congrArg (·.history) heq)
    (congrArg (·.codeIndex) heq) (congrArg (·.creatorIndex) heq) (congrArg (·.raw) heq)
    fun id hid => ?_
  rw [show s'.getCodeInfo id = s.getCodeInfo id from congrArg (·.getCodeInfo id) heq]
  exact hid

/-- The registration of a stored contract. -/
theorem registration (h : HoldsRegistry s R) {a : AccAddress} {info : ContractInfo}
    (hinfo : s.getContractInfo a = some info) : ∃ r, R a = some r ∧ r.info = info := by
  rw [h.contracts] at hinfo
  exact Option.map_eq_some_iff.mp hinfo

theorem eq_none (h : HoldsRegistry s R) {a : AccAddress} (hinfo : s.getContractInfo a = none) :
    R a = none := by
  rw [h.contracts] at hinfo
  exact Option.map_eq_none_iff.mp hinfo

/-- A key of the index by code is the key of one contract. -/
theorem codeIndexKey_iff {a : AccAddress} {r : Registration codec} (hr : R a = some r)
    (b : AccAddress) : (R b).map (·.codeIndexKey b) = some (r.codeIndexKey a) ↔ b = a := by
  constructor
  · intro hb
    obtain ⟨r', -, hkey⟩ := Option.map_eq_some_iff.mp hb
    exact (codeIndexKey_inj hkey).2.2
  · rintro rfl
    rw [hr]
    rfl

/-! ### The iterators -/

theorem drop_position (p : AbsoluteTxPosition) (a : AccAddress) :
    (p.bytes ++ a.bytes).drop absoluteTxPositionLen = a.bytes := by
  rw [← p.length_bytes, List.drop_left]

theorem codeIndexKey_under {codeID : UInt64} (a : AccAddress) (k : Bytes)
    (hk : (R a).map (·.codeIndexKey a) = some (contractByCodeIDSecondaryIndexPrefix codeID ++ k)) :
    (∃ r, R a = some r ∧ r.info.codeID = codeID) ∧ k.drop absoluteTxPositionLen = a.bytes := by
  obtain ⟨r, hr, hkey⟩ := Option.map_eq_some_iff.mp hk
  rw [Registration.codeIndexKey, contractByCreatedSecondaryIndexKey, List.append_assoc] at hkey
  obtain ⟨hcode, rfl⟩ := List.append_inj hkey (by simp [contractByCodeIDSecondaryIndexPrefix])
  exact ⟨⟨r, hr, uint64ToBigEndian_injective (List.cons.inj hcode).2⟩, drop_position _ _⟩

theorem creatorIndexKey_under {creator : AccAddress} (a : AccAddress) (k : Bytes)
    (hk : (R a).map (·.creatorIndexKey a) = some (contractsByCreatorPrefix creator ++ k)) :
    (∃ r, R a = some r ∧ r.creator = creator) ∧ k.drop absoluteTxPositionLen = a.bytes := by
  obtain ⟨r, hr, hkey⟩ := Option.map_eq_some_iff.mp hk
  rw [Registration.creatorIndexKey, contractByCreatorSecondaryIndexKey, List.append_assoc] at hkey
  obtain ⟨hcreator, rfl⟩ := creatorPrefix_inj hkey
  exact ⟨⟨r, hr, hcreator⟩, drop_position _ _⟩

/-- **`IterateContractsByCode` shows each contract of the code once and no other.** -/
theorem contractsByCode (h : HoldsRegistry s R) (codeID : UInt64) :
    (s.contractsByCode codeID).Nodup ∧ ∀ bz, bz ∈ s.contractsByCode codeID ↔
      ∃ a info, bz = a.bytes ∧ s.getContractInfo a = some info ∧ info.codeID = codeID := by
  have hkey : ∀ a k, (R a).map (·.codeIndexKey a) =
      some (contractByCodeIDSecondaryIndexPrefix codeID ++ k) →
        k.drop absoluteTxPositionLen = a.bytes := fun a k hk => (codeIndexKey_under a k hk).2
  refine ⟨h.codeIndex.nodup_owners AccAddress.bytes_injective hkey, fun bz => ?_⟩
  refine (h.codeIndex.mem_owners hkey).trans ?_
  constructor
  · rintro ⟨a, k, hk, rfl⟩
    obtain ⟨⟨r, hr, hcode⟩, -⟩ := codeIndexKey_under a k hk
    exact ⟨a, r.info, rfl, by rw [h.contracts, hr]; rfl, hcode⟩
  · rintro ⟨a, info, rfl, hinfo, rfl⟩
    obtain ⟨r, hr, rfl⟩ := h.registration hinfo
    refine ⟨a, r.last.updated.bytes ++ a.bytes, ?_, rfl⟩
    rw [hr, ← List.append_assoc]
    rfl

/-- **`IterateContractsByCreator` shows each contract of the creator once and no other.** -/
theorem contractsByCreator (h : HoldsRegistry s R) (creator : AccAddress) :
    (s.contractsByCreator creator).Nodup ∧ ∀ bz, bz ∈ s.contractsByCreator creator ↔
      ∃ a info, bz = a.bytes ∧ s.getContractInfo a = some info ∧
        codec.accAddressFromBech32 info.creator = .ok creator := by
  have hkey : ∀ a k, (R a).map (·.creatorIndexKey a) =
      some (contractsByCreatorPrefix creator ++ k) →
        k.drop absoluteTxPositionLen = a.bytes := fun a k hk => (creatorIndexKey_under a k hk).2
  refine ⟨h.creatorIndex.nodup_owners AccAddress.bytes_injective hkey, fun bz => ?_⟩
  refine (h.creatorIndex.mem_owners hkey).trans ?_
  constructor
  · rintro ⟨a, k, hk, rfl⟩
    obtain ⟨⟨r, hr, rfl⟩, -⟩ := creatorIndexKey_under a k hk
    exact ⟨a, r.info, rfl, by rw [h.contracts, hr]; rfl, r.creator_eq⟩
  · rintro ⟨a, info, rfl, hinfo, hcreator⟩
    obtain ⟨r, hr, rfl⟩ := h.registration hinfo
    obtain rfl := Except.ok.inj (r.creator_eq.symm.trans hcreator)
    refine ⟨a, r.info.created.bytes ++ a.bytes, ?_, rfl⟩
    rw [hr, ← List.append_assoc]
    rfl

/-! ### Writing -/

theorem map_update {β : Type} (f : AccAddress → Registration codec → β) (a : AccAddress)
    (r : Registration codec) : (fun b => (Function.update R a (some r) b).map (f b)) =
      Function.update (fun b => (R b).map (f b)) a (some (f a r)) := by
  funext b
  by_cases hb : b = a
  · subst hb
    simp
  · simp [hb]

theorem history_update (a : AccAddress) (r : Registration codec) :
    (fun b => ((Function.update R a (some r) b).map (·.history)).getD []) =
      Function.update (fun b => ((R b).map (·.history)).getD []) a r.history := by
  funext b
  by_cases hb : b = a
  · subst hb
    simp
  · simp [hb]

/-- The records of the contracts after one is stored. -/
theorem contracts_update (h : HoldsRegistry s R) (a : AccAddress) (r : Registration codec)
    (hcontracts : ∀ b, s'.getContractInfo b = (s.storeContractInfo a r.info).getContractInfo b)
    (b : AccAddress) : s'.getContractInfo b = (Function.update R a (some r) b).map (·.info) := by
  rw [hcontracts]
  by_cases hb : b = a
  · subst hb
    simp
  · rw [WasmStore.getContractInfo_storeContractInfo_of_ne _ _ hb, Function.update_of_ne hb,
      h.contracts]

theorem codes_update (h : HoldsRegistry s R) (a : AccAddress) (r : Registration codec)
    (hcode : (s.getCodeInfo r.info.codeID).isSome)
    (hcodes : ∀ id, s'.getCodeInfo id = s.getCodeInfo id) (b : AccAddress) (r' : Registration codec)
    (hr' : Function.update R a (some r) b = some r') : (s'.getCodeInfo r'.info.codeID).isSome := by
  rw [hcodes]
  by_cases hb : b = a
  · subst hb
    rw [Function.update_self] at hr'
    obtain rfl := Option.some.inj hr'
    exact hcode
  · rw [Function.update_of_ne hb] at hr'
    exact h.codes b r' hr'

/-- **A new contract** is registered in every family. -/
theorem registerContract (h : HoldsRegistry s R) {a creator : AccAddress} {info : ContractInfo}
    (initMsg : Bytes) (hnew : s.getContractInfo a = none)
    (hcode : (s.getCodeInfo info.codeID).isSome) (hcreator : info.creator = codec.string creator) :
    HoldsRegistry (s.registerContract creator a info (info.initialHistory initMsg))
      (Function.update R a (some (.instantiated info creator initMsg hcreator))) := by
  have hnone := h.eq_none hnew
  refine ⟨h.contracts_update a _ fun b => rfl, h.codes_update a _ hcode fun id => rfl, ?_, ?_, ?_,
    h.raw⟩
  · rw [history_update]
    have happend := h.histories.append a [info.initialHistory initMsg] (by simp [hnone])
    simp only [hnone, Option.map_none, Option.getD_none, List.nil_append] at happend
    exact happend.congr rfl
  · rw [map_update fun b r => r.codeIndexKey b]
    exact h.codeIndex.insert (by simp [hnone]) _
  · rw [map_update fun b r => r.creatorIndexKey b]
    exact h.creatorIndex.insert (by simp [hnone]) _

/-- **A migration** moves the contract in the index by code, and adds to its history. -/
theorem registerMigration (h : HoldsRegistry s R) {a : AccAddress} {r : Registration codec}
    {info : ContractInfo} {e : ContractCodeHistoryEntry} (hr : R a = some r)
    (hlength : r.history.length + 1 < 2 ^ 64) (hcode : (s.getCodeInfo info.codeID).isSome)
    (hcreator : info.creator = r.info.creator) (hcreated : info.created = r.info.created)
    (he : e.codeID = info.codeID) :
    HoldsRegistry (s.registerMigration a info r.last e)
      (Function.update R a (some (r.migrated info e hcreator hcreated he))) := by
  refine ⟨h.contracts_update a _ fun b => rfl, h.codes_update a _ hcode fun id => rfl, ?_, ?_, ?_,
    h.raw⟩
  · rw [history_update]
    have happend := h.histories.append a [e] (by simpa [hr] using hlength)
    simp only [hr, Option.map_some, Option.getD_some] at happend
    exact happend.congr rfl
  · rw [map_update fun b r => r.codeIndexKey b]
    have hreplace := h.codeIndex.replace (codeIndexKey_iff hr)
      ((r.migrated info e hcreator hcreated he).codeIndexKey a)
    have hold : r.codeIndexKey a =
        contractByCreatedSecondaryIndexKey a r.last.codeID r.last.updated := by
      rw [r.codeID_eq]
      rfl
    have hnew : (r.migrated info e hcreator hcreated he).codeIndexKey a =
        contractByCreatedSecondaryIndexKey a e.codeID e.updated := by
      rw [he]
      rfl
    rw [hold, hnew] at hreplace
    rw [hnew]
    exact hreplace
  · rw [map_update fun b r => r.creatorIndexKey b]
    -- neither the creator nor the time of creation changes
    have hsame : Function.update (fun b => (R b).map (·.creatorIndexKey b)) a
        (some ((r.migrated info e hcreator hcreated he).creatorIndexKey a)) =
        fun b => (R b).map (·.creatorIndexKey b) := by
      refine Function.update_eq_self_iff.mpr ?_
      rw [hr, Registration.creatorIndexKey, Option.map_some, Registration.creatorIndexKey,
        Registration.migrated, hcreated]
    rw [hsame]
    exact h.creatorIndex

/-- **Other settings** leave histories and indices alone. -/
theorem storeContractInfo (h : HoldsRegistry s R) {a : AccAddress} {r : Registration codec}
    {info : ContractInfo} (hr : R a = some r) (hinfo : SettingsOnly r.info info) :
    HoldsRegistry (s.storeContractInfo a info)
      (Function.update R a (some (r.modified info hinfo))) := by
  have hcode : (s.getCodeInfo info.codeID).isSome := by
    rw [hinfo.codeID]
    exact h.codes a r hr
  have hkeep : ∀ {β : Type} (f : AccAddress → Registration codec → β),
      f a (r.modified info hinfo) = f a r →
      (fun b => (Function.update R a (some (r.modified info hinfo)) b).map (f b)) =
        fun b => (R b).map (f b) := by
    intro β f hf
    rw [map_update, hf]
    exact Function.update_eq_self_iff.mpr (by rw [hr]; rfl)
  refine ⟨h.contracts_update a _ fun b => rfl, h.codes_update a _ hcode fun id => rfl, ?_, ?_, ?_,
    h.raw⟩
  · have hhistory := congrArg (fun f b => (f b).getD []) (hkeep (fun _ r => r.history) rfl)
    exact (hhistory ▸ h.histories).congr rfl
  · rw [hkeep (fun b r => r.codeIndexKey b) (by
      simp only [Registration.codeIndexKey, Registration.modified, hinfo.codeID])]
    exact h.codeIndex
  · rw [hkeep (fun b r => r.creatorIndexKey b) (by
      simp only [Registration.creatorIndexKey, Registration.modified, hinfo.created])]
    exact h.creatorIndex

end HoldsRegistry

/-! ## Changes -/

/-- A history has no position left and went on at zero. -/
def Wrapped (s : WasmStore) : Prop :=
  ∃ a, (s.history[contractCodeHistoryElementKey a 0]?).isSome

/-- No history has gone round while the registry is held. -/
theorem HoldsRegistry.not_wrapped {R : AccAddress → Option (Registration codec)}
    (h : HoldsRegistry s R) : ¬ Wrapped s := by
  rintro ⟨a, hsome⟩
  obtain ⟨e, he⟩ := Option.isSome_iff_exists.mp hsome
  obtain ⟨b, i, hkey, hentry⟩ := (h.histories.mem_iff _ _).mp he
  obtain ⟨rfl, hpos⟩ := historyKey_inj hkey
  have hlt := (List.getElem?_eq_some_iff.mp hentry).1
  have hnat := KVStore.toNat_position hlt (h.histories.length_lt a)
  rw [← hpos] at hnat
  cases hnat

/-- A history without a position left goes on at zero. -/
theorem HoldsRegistry.wraps {R : AccAddress → Option (Registration codec)} (h : HoldsRegistry s R)
    {a : AccAddress} {r : Registration codec} (hr : R a = some r)
    (hlength : ¬ r.history.length + 1 < 2 ^ 64) (e : ContractCodeHistoryEntry) :
    Wrapped (s.appendToContractHistory a [e]) := by
  have hlt : r.history.length < 2 ^ 64 := by
    have := h.histories.length_lt a
    rwa [hr] at this
  have hpos : s.lastHistoryPosition a + 1 = 0 := by
    rw [h.histories.lastHistoryPosition_eq, hr]
    show UInt64.ofNat r.history.length + 1 = 0
    have hlast : r.history.length = 2 ^ 64 - 1 := by omega
    rw [hlast]
    rfl
  refine ⟨a, ?_⟩
  show ((s.history.insert (contractCodeHistoryElementKey a (s.lastHistoryPosition a + 1)) e)[
    contractCodeHistoryElementKey a 0]?).isSome
  rw [hpos, getElem?_insert_self]
  rfl

section Change

variable {k : Keeper ε C} {sim : Bool} {d d' : Durable}

theorem isSome_insert {V : Type} {m : KVStore V} {key new : Bytes} {v : V} (h : (m[key]?).isSome) :
    ((m.insert new v)[key]?).isSome := by
  by_cases hk : key = new
  · subst hk
    rw [getElem?_insert_self]
    rfl
  · rwa [getElem?_insert_of_ne _ _ hk]

/-- No change removes from a history. -/
theorem Change.wrapped (h : Change k sim d d') (hw : Wrapped d.store) : Wrapped d'.store := by
  obtain ⟨a, ha⟩ := hw
  refine ⟨a, ?_⟩
  have hsame : d'.store.history = d.store.history →
      (d'.store.history[contractCodeHistoryElementKey a 0]?).isSome := fun heq => heq ▸ ha
  cases h with
  | ran contract hstored hregistry => exact hsame (congrArg (·.history) hregistry)
  | files hstore => exact hsame (by rw [hstore])
  | create creator config code hstore => exact hsame (by rw [hstore]; rfl)
  | setAccessConfig codeID info config hinfo hstore => exact hsame (by rw [hstore]; rfl)
  | instantiate ctx codeID codeInfo creator contract admin label info initMsg s₁ hnew hcode haddr
      hinfo hregistry =>
      have hhistory := congrArg (·.history) hregistry
      have hs₁ : s₁.history = d.store.history := by cases haddr <;> rfl
      rw [show d'.store.history = _ from hhistory]
      exact isSome_insert (hs₁ ▸ ha)
  | migrate codeID codeInfo contract old info last position msg hold hcode hinfo hlast hregistry =>
      have hhistory := congrArg (·.history) hregistry
      rw [show d'.store.history = _ from hhistory]
      exact isSome_insert ha
  | modify contract old info hold hinfo hstore => exact hsame (by rw [hstore]; rfl)
  | pin codeID hcode hstore => exact hsame (by rw [hstore])
  | unpin codeID hstore => exact hsame (by rw [hstore])
  | params params hstore => exact hsame (by rw [hstore])
  | acknowledged contract port channel sequence packet ack hload hstore =>
      exact hsame (by rw [hstore]; rfl)

theorem isSome_storeCodeInfo {s : WasmStore} {codeID id : UInt64} {info : CodeInfo}
    (h : (s.getCodeInfo id).isSome) : ((s.storeCodeInfo codeID info).getCodeInfo id).isSome :=
  isSome_insert h

/-- **What a change does to the registry**: it holds it, or a history wraps around. -/
theorem Change.registry (h : Change k sim d d') (hd : Registry k.codec d.store) :
    Registry k.codec d'.store ∨ Wrapped d'.store := by
  obtain ⟨R, hR⟩ := hd
  cases h with
  | ran contract hstored hregistry => exact .inl ⟨R, hR.congr_registry hregistry⟩
  | files hstore => exact .inl ⟨R, hstore ▸ hR⟩
  | create creator config code hstore =>
      rw [hstore]
      exact .inl ⟨R, hR.congr rfl rfl rfl rfl rfl fun id hid => isSome_storeCodeInfo hid⟩
  | setAccessConfig codeID info config hinfo hstore =>
      rw [hstore]
      exact .inl ⟨R, hR.congr rfl rfl rfl rfl rfl fun id hid => isSome_storeCodeInfo hid⟩
  | instantiate ctx codeID codeInfo creator contract admin label info initMsg s₁ hnew hcode haddr
      hinfo hregistry =>
      have hR₁ : HoldsRegistry s₁ R := by
        cases haddr with
        | classic => exact hR.congr rfl rfl rfl rfl rfl fun _ hid => hid
        | predictable _ => exact hR
      have hcode₁ : (s₁.getCodeInfo info.codeID).isSome := by
        rw [hinfo.codeID]
        cases haddr <;> exact Option.isSome_iff_exists.mpr ⟨codeInfo, hcode⟩
      have hnew₁ : s₁.getContractInfo contract = none := (haddr.getContractInfo_eq _).trans hnew
      have hreg := hR₁.registerContract initMsg hnew₁ hcode₁ hinfo.creator
      exact .inl ⟨_, hreg.congr_registry hregistry⟩
  | migrate codeID codeInfo contract old info last position msg hold hcode hinfo hlast hregistry =>
      obtain ⟨r, hr, rfl⟩ := hR.registration hold
      obtain rfl : r.last = last := by
        rw [hR.histories.lastContractHistoryEntry_eq, hr] at hlast
        exact Option.some.inj (r.getLast_eq.symm.trans hlast)
      by_cases hlength : r.history.length + 1 < 2 ^ 64
      · have hcode' : (d.store.getCodeInfo info.codeID).isSome := by
          rw [hinfo.codeID]
          exact Option.isSome_iff_exists.mpr ⟨codeInfo, hcode⟩
        have hreg := hR.registerMigration (e := ⟨.migrate, codeID, position, msg⟩) hr hlength hcode'
          hinfo.creator hinfo.created hinfo.codeID.symm
        exact .inl ⟨_, hreg.congr_registry hregistry⟩
      · obtain ⟨a, ha⟩ := hR.wraps hr hlength ⟨.migrate, codeID, position, msg⟩
        refine .inr ⟨a, ?_⟩
        rw [show d'.store.history = _ from congrArg (·.history) hregistry]
        exact ha
  | modify contract old info hold hinfo hstore =>
      obtain ⟨r, hr, rfl⟩ := hR.registration hold
      rw [hstore]
      exact .inl ⟨_, hR.storeContractInfo hr hinfo⟩
  | pin codeID hcode hstore =>
      rw [hstore]
      exact .inl ⟨R, hR.congr rfl rfl rfl rfl rfl fun _ hid => hid⟩
  | unpin codeID hstore =>
      rw [hstore]
      exact .inl ⟨R, hR.congr rfl rfl rfl rfl rfl fun _ hid => hid⟩
  | params params hstore =>
      rw [hstore]
      exact .inl ⟨R, hR.congr rfl rfl rfl rfl rfl fun _ hid => hid⟩
  | acknowledged contract port channel sequence packet ack hload hstore =>
      rw [hstore]
      exact .inl ⟨R, hR.congr rfl rfl rfl rfl rfl fun _ hid => hid⟩

theorem Changes.registry (h : Changes k sim d d')
    (hd : Registry k.codec d.store ∨ Wrapped d.store) :
    Registry k.codec d'.store ∨ Wrapped d'.store := by
  induction h with
  | refl => exact hd
  | tail _ hchange ih =>
      rcases ih with hreg | hwrapped
      · exact hchange.registry hreg
      · exact .inr (hchange.wrapped hwrapped)

end Change

end Wasmd
