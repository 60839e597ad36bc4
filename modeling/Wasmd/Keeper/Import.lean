import Wasmd.Keeper.CodeSequence
import Wasmd.Keeper.Genesis
import Wasmd.Keeper.Registry

/-!
# What an accepted genesis state leaves in the store

* `importCode_ok`, `importContract_ok`, `importAutoIncrementID_ok` — what the import of one element
  says about it and writes.
* `CodesImported`, `ContractsImported`, `SequencesImported` — the store after the three loops.
* `next_address_free_iff` — when the next classic address of every code is unused.
* `genesis_registry_iff` — when the registry invariant holds, and the sequences change no other key.
-/

namespace Wasmd

open ByteStore KVStore Effects Gas

variable {ε C : Type} {k : Keeper ε C} {w w' : World (Multistore ε) Shared} {u : Unit}

/-! ## One element -/

theorem importCode_ok {codeID : UInt64} {codeInfo : CodeInfo} {wasmCode : Bytes}
    (h : k.importCode codeID codeInfo wasmCode w = (.ok u, w')) :
    w.ms.wasm.containsCodeInfo codeID = false ∧
      w'.ms.wasm = w.ms.wasm.storeCodeInfo codeID codeInfo := by
  obtain ⟨code, w₁, hunpack, h₁⟩ := GoM.bind_ok_iff.mp h
  obtain ⟨-, rfl⟩ := orError_ok_iff.mp hunpack
  obtain ⟨hash, w₂, hstore, h₂⟩ := GoM.bind_ok_iff.mp h₁
  have hsame : w₂.ms = w₁.ms := by
    obtain ⟨_, w₃, hcompile, h₃⟩ := GoM.bind_ok_iff.mp hstore
    obtain ⟨-, rfl⟩ := orError_ok_iff.mp hcompile
    obtain ⟨_, w₄, hwrite, h₄⟩ := GoM.bind_ok_iff.mp h₃
    obtain rfl := GoM.modify_ok_iff.mp hwrite
    obtain ⟨-, rfl⟩ := GoM.pure_ok_iff.mp h₄
    rfl
  obtain ⟨_, w₃, hhash, h₃⟩ := GoM.bind_ok_iff.mp h₂
  obtain ⟨-, rfl⟩ := GoM.ensure_ok_iff.mp hhash
  obtain ⟨_, w₄, hread, h₄⟩ := GoM.bind_ok_iff.mp h₃
  obtain ⟨rfl, rfl⟩ := readStore_ok_iff.mp hread
  obtain ⟨_, w₅, hcheck, h₅⟩ := GoM.bind_ok_iff.mp h₄
  obtain ⟨hfound, rfl⟩ := GoM.ensure_ok_iff.mp hcheck
  obtain rfl := writeStore_ok_iff.mp h₅
  rw [← hsame]
  exact ⟨hfound, rfl⟩

theorem importContractState_registry {a : AccAddress} {models : List Model}
    (h : (Keeper.importContractState a models : KeeperM ε Unit) w = (.ok u, w')) :
    w'.ms.wasm.registry = w.ms.wasm.registry := by
  refine GoM.forEach_invariant (P := fun w₁ => w₁.ms.wasm.registry = w.ms.wasm.registry) models
    (fun m _ w₁ _ w₂ hbody hw₁ => ?_) h rfl
  obtain ⟨_, w₃, hread, h₁⟩ := GoM.bind_ok_iff.mp hbody
  obtain ⟨-, rfl⟩ := readStore_ok_iff.mp hread
  obtain ⟨_, w₄, hcheck, h₂⟩ := GoM.bind_ok_iff.mp h₁
  obtain ⟨-, rfl⟩ := GoM.ensure_ok_iff.mp hcheck
  obtain ⟨_, w₅, hkey, h₃⟩ := GoM.bind_ok_iff.mp h₂
  obtain ⟨-, rfl⟩ := orPanic_ok_iff.mp hkey
  obtain rfl := writeStore_ok_iff.mp h₃
  exact hw₁

theorem importContract_ok {a : AccAddress} {c : ContractInfo} {state : List Model}
    {entries : List ContractCodeHistoryEntry}
    (h : k.importContract a c state entries w = (.ok u, w')) :
    ∃ first creator, w.ms.wasm.containsCodeInfo c.codeID = true ∧
      w.ms.wasm.hasContractInfo a = false ∧ entries.head? = some first ∧
      k.codec.accAddressFromBech32 c.creator = .ok creator ∧
      w'.ms.wasm.registry = (w.ms.wasm.registerImport creator a c entries first
        (entries.getLastD first)).registry := by
  obtain ⟨_, w₁, hread, h₁⟩ := GoM.bind_ok_iff.mp h
  obtain ⟨rfl, rfl⟩ := readStore_ok_iff.mp hread
  obtain ⟨_, w₂, hcheck, h₂⟩ := GoM.bind_ok_iff.mp h₁
  obtain ⟨hstored, rfl⟩ := GoM.ensure_ok_iff.mp hcheck
  obtain ⟨_, w₃, hread', h₃⟩ := GoM.bind_ok_iff.mp h₂
  obtain ⟨rfl, rfl⟩ := readStore_ok_iff.mp hread'
  obtain ⟨_, w₄, hcheck', h₄⟩ := GoM.bind_ok_iff.mp h₃
  obtain ⟨hfound, rfl⟩ := GoM.ensure_ok_iff.mp hcheck'
  obtain ⟨first, w₅, hhead, h₅⟩ := GoM.bind_ok_iff.mp h₄
  obtain ⟨hfirst, rfl⟩ := GoM.ofOption_ok_iff.mp hhead
  obtain ⟨creator, w₆, hdecode, h₆⟩ := GoM.bind_ok_iff.mp h₅
  obtain ⟨hcreator, rfl⟩ := orError_ok_iff.mp hdecode
  obtain ⟨_, w₇, hwrite, h₇⟩ := GoM.bind_ok_iff.mp h₆
  obtain rfl := writeStore_ok_iff.mp hwrite
  refine ⟨first, creator, hstored, hfound, hfirst, ?_, importContractState_registry h₇⟩
  cases hd : k.codec.accAddressFromBech32 c.creator with
  | error e => simp [hd, Except.mapError] at hcreator
  | ok b => simpa [hd, Except.mapError] using hcreator

theorem importAutoIncrementID_ok {key : Bytes} {val : UInt64}
    (h : (Keeper.importAutoIncrementID key val : KeeperM ε Unit) w = (.ok u, w')) :
    w.ms.wasm.has key = false ∧
      w'.ms.wasm = w.ms.wasm.setBytes key (uint64ToBigEndian val) := by
  obtain ⟨_, w₁, hread, h₁⟩ := GoM.bind_ok_iff.mp h
  obtain ⟨rfl, rfl⟩ := readStore_ok_iff.mp hread
  obtain ⟨_, w₂, hcheck, h₂⟩ := GoM.bind_ok_iff.mp h₁
  obtain ⟨hfound, rfl⟩ := GoM.ensure_ok_iff.mp hcheck
  obtain rfl := writeStore_ok_iff.mp h₂
  exact ⟨hfound, rfl⟩

/-! ## Plain bytes -/

namespace WasmStore

variable {s : WasmStore}

/-- Whether a key is there is decided by what lies under it. -/
theorem has_congr {s s' : WasmStore} {key : Bytes} (hcodes : s'.codes[key]? = s.codes[key]?)
    (hcontracts : s'.contracts[key]? = s.contracts[key]?)
    (hstate : s'.contractState[key]? = s.contractState[key]?)
    (hsequences : s'.sequences[key]? = s.sequences[key]?)
    (hhistory : s'.history[key]? = s.history[key]?)
    (hcodeIndex : s'.codeIndex[key]? = s.codeIndex[key]?)
    (hpinned : s'.pinned[key]? = s.pinned[key]?)
    (hcreatorIndex : s'.creatorIndex[key]? = s.creatorIndex[key]?) (hparams : s'.params = s.params)
    (hacks : s'.asyncAcks[key]? = s.asyncAcks[key]?) (hraw : s'.raw[key]? = s.raw[key]?) :
    s'.has key = s.has key := by
  unfold has
  rw [hcodes, hcontracts, hstate, hsequences, hhistory, hcodeIndex, hpinned, hcreatorIndex, hparams,
    hacks, hraw]

theorem has_setBytes_self (key value : Bytes) : (s.setBytes key value).has key = true := by
  unfold setBytes
  split
  · show (_ || _) = true
    rw [getElem?_insert_self]
    rfl
  · show (_ || _) = true
    rw [getElem?_insert_self]
    rfl
  · show (_ || _) = true
    rw [getElem?_insert_self]
    rfl
  · show (_ || _) = true
    rw [getElem?_insert_self]
    rfl
  · show (_ || _) = true
    rw [getElem?_insert_self]
    rfl
  · unfold has
    rw [getElem?_insert_self, Option.isSome_some, Bool.or_true]

theorem has_setBytes_of_ne {key key' : Bytes} (value : Bytes) (h : key' ≠ key) :
    (s.setBytes key value).has key' = s.has key' := by
  unfold setBytes
  split
  · exact has_congr rfl rfl (getElem?_insert_of_ne _ _ h) rfl rfl rfl rfl rfl rfl rfl rfl
  · exact has_congr rfl rfl rfl (getElem?_insert_of_ne _ _ h) rfl rfl rfl rfl rfl rfl rfl
  · exact has_congr rfl rfl rfl rfl rfl (getElem?_insert_of_ne _ _ h) rfl rfl rfl rfl rfl
  · exact has_congr rfl rfl rfl rfl rfl rfl (getElem?_insert_of_ne _ _ h) rfl rfl rfl rfl
  · exact has_congr rfl rfl rfl rfl rfl rfl rfl (getElem?_insert_of_ne _ _ h) rfl rfl rfl
  · exact has_congr rfl rfl rfl rfl rfl rfl rfl rfl rfl rfl (getElem?_insert_of_ne _ _ h)

/-- The families that hold records. -/
def records (s : WasmStore) : WasmStore :=
  { s with
    contractState := ∅
    sequences := ∅
    codeIndex := ∅
    pinned := ∅
    creatorIndex := ∅
    raw := ∅ }

theorem records_setBytes (key value : Bytes) : (s.setBytes key value).records = s.records := by
  unfold setBytes
  split <;> rfl

theorem sequences_setBytes_of_ne {key key' : Bytes} (value : Bytes) (h : key' ≠ key) :
    (s.setBytes key value).sequences[key']? = s.sequences[key']? := by
  unfold setBytes
  split
  · rfl
  · exact getElem?_insert_of_ne _ _ h
  · rfl
  · rfl
  · rfl
  · rfl

end WasmStore

/-! ## The loops -/

/-- The codes of a list were imported. -/
structure CodesImported (s₀ : WasmStore) (done : List Code) (s : WasmStore) : Prop where
  rest : { s with codes := ∅, pinned := ∅ } = { s₀ with codes := ∅, pinned := ∅ }
  codes : ∀ id, (s.getCodeInfo id).isSome ↔
    (s₀.getCodeInfo id).isSome ∨ ∃ c ∈ done, c.codeID = id

theorem CodesImported.code {s₀ s s' : WasmStore} {done : List Code} (h : CodesImported s₀ done s)
    (c : Code) (hrest : { s' with codes := ∅, pinned := ∅ } = { s with codes := ∅, pinned := ∅ })
    (hcodes : s'.codes = (s.storeCodeInfo c.codeID c.codeInfo).codes) :
    CodesImported s₀ (done ++ [c]) s' := by
  refine ⟨hrest.trans h.rest, fun id => ?_⟩
  have hget : s'.getCodeInfo id = (s.storeCodeInfo c.codeID c.codeInfo).getCodeInfo id := by
    unfold WasmStore.getCodeInfo
    rw [hcodes]
  rw [hget, isSome_getCodeInfo_storeCodeInfo, h.codes]
  simp only [List.mem_append, List.mem_singleton, or_and_right, exists_or, exists_eq_left, or_assoc]

theorem importCodes_ok {codes : List Code} (h : k.importCodes codes w = (.ok u, w')) :
    CodesImported w.ms.wasm codes w'.ms.wasm := by
  refine GoM.forEachFrom_rule (P := fun done w₁ => CodesImported w.ms.wasm done w₁.ms.wasm)
    (fun i done c w₁ _ w₂ _ hbody hw₁ => ?_) h ⟨rfl, fun id => by simp⟩
  obtain ⟨_, w₃, himport, h₁⟩ := GoM.bind_ok_iff.mp hbody
  obtain ⟨-, hs₃⟩ := importCode_ok (GoM.mapError_ok_iff.mp himport)
  split at h₁
  · obtain ⟨-, -, -, hs₂, -⟩ := pinCode_ok (GoM.mapError_ok_iff.mp h₁)
    refine hw₁.code c ?_ ?_
    · rw [hs₂, hs₃]
      rfl
    · rw [hs₂, hs₃]
  · obtain ⟨-, rfl⟩ := GoM.pure_ok_iff.mp h₁
    refine hw₁.code c ?_ ?_
    · rw [hs₃]
      rfl
    · rw [hs₃]

/-- The contracts of a list were imported. -/
structure ContractsImported (codec : AddressCodec) (s₀ : WasmStore) (done : List Contract)
    (s : WasmStore) : Prop where
  rest : s.withoutContracts = s₀.withoutContracts
  infos : ∀ a info, s.getContractInfo a = some info ↔ s₀.getContractInfo a = some info ∨
    ∃ c ∈ done, codec.accAddressFromBech32 c.contractAddress = .ok a ∧ c.contractInfo = info

/-- Appending to a history leaves the other families alone. -/
theorem appendToContractHistory_eq (s : WasmStore) (a : AccAddress)
    (entries : List ContractCodeHistoryEntry) : s.appendToContractHistory a entries =
      { s with history := (s.appendToContractHistory a entries).history } := by
  have hfrom : ∀ (entries : List ContractCodeHistoryEntry) (pos : UInt64) (s : WasmStore),
      WasmStore.appendHistoryFrom a pos entries s =
        { s with history := (WasmStore.appendHistoryFrom a pos entries s).history } := by
    intro entries
    induction entries with
    | nil => exact fun _ _ => rfl
    | cons e rest ih => exact fun pos s => ih (pos + 1) _
  exact hfrom entries _ s

theorem getContractInfo_registerImport (s : WasmStore) (creator a : AccAddress) (c : ContractInfo)
    (entries : List ContractCodeHistoryEntry) (first last : ContractCodeHistoryEntry)
    (b : AccAddress) : (s.registerImport creator a c entries first last).getContractInfo b =
      (s.storeContractInfo a c).getContractInfo b := by
  rw [WasmStore.registerImport, appendToContractHistory_eq]
  rfl

theorem ContractsImported.contract {codec : AddressCodec} {s₀ s s' : WasmStore}
    {done : List Contract} (h : ContractsImported codec s₀ done s) {c : Contract} {a : AccAddress}
    (ha : codec.accAddressFromBech32 c.contractAddress = .ok a)
    (hnew : s.getContractInfo a = none)
    {creator : AccAddress} {first last : ContractCodeHistoryEntry}
    (hs' : s'.registry = (s.registerImport creator a c.contractInfo c.contractCodeHistory first
      last).registry) : ContractsImported codec s₀ (done ++ [c]) s' := by
  constructor
  · refine Eq.trans ?_ h.rest
    rw [WasmStore.registerImport, appendToContractHistory_eq] at hs'
    have hrest := congrArg WasmStore.withoutContracts hs'
    exact hrest
  · intro b info
    have hget : s'.getContractInfo b = (s.storeContractInfo a c.contractInfo).getContractInfo b :=
      (congrArg (·.getContractInfo b) hs').trans
        (getContractInfo_registerImport s creator a _ _ first last b)
    have hmem : (∃ c' ∈ done ++ [c], codec.accAddressFromBech32 c'.contractAddress = .ok b ∧
        c'.contractInfo = info) ↔ (∃ c' ∈ done, codec.accAddressFromBech32 c'.contractAddress =
          .ok b ∧
        c'.contractInfo = info) ∨ a = b ∧ c.contractInfo = info := by
      simp [or_and_right, exists_or, ha]
    rw [hget, hmem]
    by_cases hb : b = a
    · subst hb
      rw [WasmStore.getContractInfo_storeContractInfo_self]
      have hnone := mt (h.infos b info).mpr (by simp [hnew])
      rw [not_or] at hnone
      simp [hnone]
    · rw [WasmStore.getContractInfo_storeContractInfo_of_ne _ _ hb, h.infos]
      simp [Ne.symm hb]

/-- What the body of the loop over the contracts says. -/
theorem importOne_ok {i : ℕ} {c : Contract} (h : (do
      let contractAddr ← orError ((k.codec.accAddressFromBech32 c.contractAddress).mapError
        fun err => .wrapped s!"address in contract number {i}" (.foreign err))
      GoM.mapError (.wrapped s!"contract number {i}")
        (k.importContract contractAddr c.contractInfo c.contractState c.contractCodeHistory)) w =
      (.ok u, w')) :
    ∃ a, k.codec.accAddressFromBech32 c.contractAddress = .ok a ∧
      w.ms.wasm.hasContractInfo a = false ∧ ∃ first creator,
        (w.ms.wasm.containsCodeInfo c.contractInfo.codeID = true ∧
          c.contractCodeHistory.head? = some first ∧
          k.codec.accAddressFromBech32 c.contractInfo.creator = .ok creator) ∧
        w'.ms.wasm.registry = (w.ms.wasm.registerImport creator a c.contractInfo
          c.contractCodeHistory first (c.contractCodeHistory.getLastD first)).registry := by
  obtain ⟨a, w₁, hdecode, h₁⟩ := GoM.bind_ok_iff.mp h
  obtain ⟨ha, rfl⟩ := orError_ok_iff.mp hdecode
  obtain ⟨first, creator, hcode, hfound, hfirst, hcreator, hs⟩ :=
    importContract_ok (GoM.mapError_ok_iff.mp h₁)
  refine ⟨a, ?_, hfound, first, creator, ⟨hcode, hfirst, hcreator⟩, hs⟩
  cases hd : k.codec.accAddressFromBech32 c.contractAddress with
  | error e => simp [hd, Except.mapError] at ha
  | ok b => simpa [hd, Except.mapError] using ha

theorem importContracts_ok {contracts : List Contract}
    (h : k.importContracts contracts w = (.ok u, w')) :
    ContractsImported k.codec w.ms.wasm contracts w'.ms.wasm := by
  refine GoM.forEachFrom_rule
    (P := fun done w₁ => ContractsImported k.codec w.ms.wasm done w₁.ms.wasm)
    (fun i done c w₁ _ w₂ _ hbody hw₁ => ?_) h
    ⟨rfl, fun a info => by simp⟩
  obtain ⟨a, ha, hfound, first, creator, -, hs⟩ := importOne_ok hbody
  exact hw₁.contract ha (WasmStore.getContractInfo_eq_none hfound) hs

/-- The sequences of a list were imported. -/
structure SequencesImported (s₀ : WasmStore) (done : List Sequence) (s : WasmStore) : Prop where
  records : s.records = s₀.records
  has : ∀ key, s.has key = true ↔ s₀.has key = true ∨ ∃ seq ∈ done, seq.idKey = key
  values : ∀ t, s.sequences[(0x04 :: t : Bytes)]? = s₀.sequences[(0x04 :: t : Bytes)]?.or
    ((done.find? (·.idKey = 0x04 :: t)).map fun seq => uint64ToBigEndian seq.value)
  fresh : ∀ seq ∈ done, s₀.has seq.idKey = false

theorem SequencesImported.sequence {s₀ s : WasmStore} {done : List Sequence}
    (h : SequencesImported s₀ done s) {seq : Sequence} (hnew : s.has seq.idKey = false) :
    SequencesImported s₀ (done ++ [seq]) (s.setBytes seq.idKey (uint64ToBigEndian seq.value)) := by
  have hfresh : s₀.has seq.idKey = false ∧ ¬ ∃ seq' ∈ done, seq'.idKey = seq.idKey := by
    have hno := mt (h.has seq.idKey).mpr (by simp [hnew])
    rw [not_or] at hno
    exact ⟨by simpa using hno.1, hno.2⟩
  refine ⟨(WasmStore.records_setBytes _ _).trans h.records, fun key => ?_, fun t => ?_, ?_⟩
  · have hmem : (∃ seq' ∈ done ++ [seq], seq'.idKey = key) ↔
        (∃ seq' ∈ done, seq'.idKey = key) ∨ seq.idKey = key := by
      simp [or_and_right, exists_or]
    rw [hmem]
    by_cases hkey : key = seq.idKey
    · subst hkey
      simp [WasmStore.has_setBytes_self]
    · rw [WasmStore.has_setBytes_of_ne _ hkey, h.has]
      simp [Ne.symm hkey]
  · by_cases hkey : seq.idKey = 0x04 :: t
    · have hvalue := h.values t
      have hnone : s.sequences[(0x04 :: t : Bytes)]? = none := by
        rw [hkey] at hnew
        exact Option.isSome_eq_false_iff.mp (Bool.or_eq_false_iff.mp hnew).1 |>
          Option.isNone_iff_eq_none.mp
      rw [hnone, eq_comm, Option.or_eq_none_iff, Option.map_eq_none_iff] at hvalue
      rw [List.find?_append, hvalue.1, hvalue.2, hkey]
      have hset : (s.setBytes (0x04 :: t) (uint64ToBigEndian seq.value)).sequences =
        s.sequences.insert (0x04 :: t) (uint64ToBigEndian seq.value) := rfl
      rw [hset, getElem?_insert_self]
      simp [hkey]
    · rw [WasmStore.sequences_setBytes_of_ne _ (Ne.symm hkey), h.values, List.find?_append]
      simp [hkey]
  · intro seq' hseq'
    rcases List.mem_append.mp hseq' with hold | hself
    · exact h.fresh seq' hold
    · rw [List.mem_singleton.mp hself]
      exact hfresh.1

theorem importSequences_ok {sequences : List Sequence}
    (h : (Keeper.importSequences sequences : KeeperM ε Unit) w = (.ok u, w')) :
    SequencesImported w.ms.wasm sequences w'.ms.wasm := by
  refine GoM.forEachFrom_rule (P := fun done w₁ => SequencesImported w.ms.wasm done w₁.ms.wasm)
    (fun i done seq w₁ _ w₂ _ hbody hw₁ => ?_) h
    ⟨rfl, fun key => by simp, fun t => by simp, fun seq hseq => absurd hseq List.not_mem_nil⟩
  obtain ⟨hfound, hs⟩ := importAutoIncrementID_ok (GoM.mapError_ok_iff.mp hbody)
  rw [hs]
  exact hw₁.sequence hfound

/-! ## Accepted genesis states -/

/-- The records of a genesis state were imported into an empty store: first the codes, then the
contracts. -/
structure RecordsImported (codec : AddressCodec) (data : GenesisState) (s : WasmStore) : Prop where
  codes : ∀ id, (s.getCodeInfo id).isSome ↔ ∃ c ∈ data.codes, c.codeID = id
  infos : ∀ a info, s.getContractInfo a = some info ↔ ∃ c ∈ data.contracts,
    codec.accAddressFromBech32 c.contractAddress = .ok a ∧ c.contractInfo = info
  params : s.params = some data.params
  sequences : s.sequences = ∅
  asyncAcks : s.asyncAcks = ∅
  raw : s.raw = ∅

theorem importRecords_ok {data : GenesisState} (hempty : w.ms.wasm = .empty)
    (h : k.importRecords data w = (.ok u, w')) : RecordsImported k.codec data w'.ms.wasm := by
  obtain ⟨_, w₁, hparams, h₁⟩ := GoM.bind_ok_iff.mp h
  obtain rfl := writeStore_ok_iff.mp hparams
  obtain ⟨_, w₂, hcodes, h₂⟩ := GoM.bind_ok_iff.mp h₁
  have hc := importCodes_ok hcodes
  have hs := importContracts_ok h₂
  have hrest : w'.ms.wasm.withoutContracts = w₂.ms.wasm.withoutContracts := hs.rest
  have hrest₂ := hc.rest
  dsimp only at hrest₂
  rw [hempty] at hrest₂
  refine ⟨fun id => ?_, fun a info => ?_, ?_, ?_, ?_, ?_⟩
  · have hget : w'.ms.wasm.getCodeInfo id = w₂.ms.wasm.getCodeInfo id :=
      congrArg (·.getCodeInfo id) hrest
    rw [hget, hc.codes, hempty]
    exact or_iff_right (by simp [WasmStore.getCodeInfo, WasmStore.empty])
  · rw [hs.infos]
    have hnone : w₂.ms.wasm.getContractInfo a = none := congrArg (·.getContractInfo a) hrest₂
    simp [hnone]
  · exact (congrArg (·.params) hrest).trans (congrArg (·.params) hrest₂)
  · exact (congrArg (·.sequences) hrest).trans (congrArg (·.sequences) hrest₂)
  · exact (congrArg (·.asyncAcks) hrest).trans (congrArg (·.asyncAcks) hrest₂)
  · exact (congrArg (·.raw) hrest).trans (congrArg (·.raw) hrest₂)

theorem checkSequences_ok {codes : List Code} (h : k.checkSequences codes w = (.ok u, w')) :
    w' = w ∧ Keeper.maxCodeID codes < w.ms.wasm.peekAutoIncrementID keySequenceCodeID := by
  obtain ⟨_, w₁, hread, h₁⟩ := GoM.bind_ok_iff.mp h
  obtain ⟨rfl, rfl⟩ := readStore_ok_iff.mp hread
  obtain ⟨_, w₂, hcheck, h₂⟩ := GoM.bind_ok_iff.mp h₁
  obtain ⟨hmax, rfl⟩ := GoM.ensure_ok_iff.mp hcheck
  obtain ⟨_, w₃, hread', h₃⟩ := GoM.bind_ok_iff.mp h₂
  obtain ⟨rfl, rfl⟩ := readStore_ok_iff.mp hread'
  obtain ⟨a, w₄, hbranch, h₄⟩ := GoM.bind_ok_iff.mp h₃
  obtain rfl : w₃ = w₄ := congrArg Prod.snd hbranch
  obtain ⟨_, w₅, hread'', h₅⟩ := GoM.bind_ok_iff.mp h₄
  obtain ⟨rfl, rfl⟩ := readStore_ok_iff.mp hread''
  obtain ⟨-, rfl⟩ := GoM.ensure_ok_iff.mp h₅
  exact ⟨rfl, hmax⟩

/-- **An accepted genesis state**: its records, then its sequences. -/
theorem initGenesis_ok {data : GenesisState} (hempty : w.ms.wasm = .empty)
    (h : k.initGenesis data w = (.ok u, w')) :
    ∃ w₁, k.importRecords data w = (.ok (), w₁) ∧ RecordsImported k.codec data w₁.ms.wasm ∧
      SequencesImported w₁.ms.wasm data.sequences w'.ms.wasm := by
  obtain ⟨_, w₁, hrecords, h₁⟩ := GoM.bind_ok_iff.mp h
  obtain ⟨_, w₂, hsequences, h₂⟩ := GoM.bind_ok_iff.mp h₁
  obtain ⟨rfl, -⟩ := checkSequences_ok h₂
  exact ⟨w₁, hrecords, importRecords_ok hempty hrecords, importSequences_ok hsequences⟩

/-! ## The next classic address -/

/-- The value the sequence of the instances has in a genesis state. -/
def GenesisState.instanceSequence (data : GenesisState) : UInt64 :=
  ((data.sequences.find? (·.idKey = keySequenceInstanceID)).map (·.value)).getD 1

/-- The address that a classic instantiation of the code is given next is not taken. -/
def NextAddressFree (k : Keeper ε C) (codeID : UInt64) (w : World (Multistore ε) Shared) : Prop :=
  ∀ checksum a w₁, k.generateAddress codeID checksum .classic w = (.ok a, w₁) →
    w₁.ms.wasm.hasContractInfo a = false

theorem nextAddressFree_iff {codeID : UInt64} : NextAddressFree k codeID w ↔
    w.ms.wasm.hasContractInfo (k.buildContractAddressClassic codeID
      (w.ms.wasm.peekAutoIncrementID keySequenceInstanceID)) = false := by
  constructor
  · intro h
    have hrun : k.generateAddress codeID [] .classic w = (.ok (k.buildContractAddressClassic codeID
        (w.ms.wasm.peekAutoIncrementID keySequenceInstanceID)), { w with ms := { w.ms with
          wasm := (w.ms.wasm.autoIncrementID keySequenceInstanceID).2 } }) := rfl
    have hnext := h [] _ _ hrun
    exact hnext
  · intro h checksum a w₁ hrun
    cases hrun
    exact h

theorem SequencesImported.instanceSequence {s₀ s : WasmStore} {data : GenesisState}
    (h : SequencesImported s₀ data.sequences s) (hs₀ : s₀.sequences = ∅) :
    s.peekAutoIncrementID keySequenceInstanceID = data.instanceSequence := by
  have hvalue := h.values (asciiBytes "lastContractId")
  rw [hs₀] at hvalue
  rw [WasmStore.peekAutoIncrementID, GenesisState.instanceSequence,
    show s.sequences[keySequenceInstanceID]? = _ from hvalue]
  show Option.getD (Option.map bigEndianToUint64 (Option.map _ (List.find? _ data.sequences))) 1 =
    _
  rw [Option.map_map]
  congr 1
  exact congrArg (Option.map · _) (funext fun seq => bigEndianToUint64_uint64ToBigEndian seq.value)

/-- **The next classic addresses after genesis** are unused exactly if no imported contract has one
of them, and no sequence is stored under the key of one. -/
theorem next_address_free_iff (k : Keeper ε C) (data : GenesisState)
    (w w' : World (Multistore ε) Shared) (hempty : w.ms.wasm = .empty)
    (h : k.initGenesis data w = (.ok (), w')) :
    (∀ codeID, (w'.ms.wasm.getCodeInfo codeID).isSome → NextAddressFree k codeID w') ↔
      ∀ code ∈ data.codes,
        (∀ c ∈ data.contracts, k.codec.accAddressFromBech32 c.contractAddress ≠
          .ok (k.buildContractAddressClassic code.codeID data.instanceSequence)) ∧
        ∀ seq ∈ data.sequences, seq.idKey ≠ contractAddressKey
          (k.buildContractAddressClassic code.codeID data.instanceSequence) := by
  obtain ⟨w₁, -, hrecords, hsequences⟩ := initGenesis_ok hempty h
  have hstored : ∀ id, (w'.ms.wasm.getCodeInfo id).isSome ↔ ∃ c ∈ data.codes, c.codeID = id := by
    intro id
    rw [show w'.ms.wasm.getCodeInfo id = w₁.ms.wasm.getCodeInfo id from
      congrArg (·.getCodeInfo id) hsequences.records]
    exact hrecords.codes id
  have htaken : ∀ a, w'.ms.wasm.hasContractInfo a = true ↔
      (∃ c ∈ data.contracts, k.codec.accAddressFromBech32 c.contractAddress = .ok a) ∨
        ∃ seq ∈ data.sequences, seq.idKey = contractAddressKey a := by
    intro a
    have hbefore : w₁.ms.wasm.has (contractAddressKey a) = true ↔
        ∃ c ∈ data.contracts, k.codec.accAddressFromBech32 c.contractAddress = .ok a := by
      show w₁.ms.wasm.hasContractInfo a = true ↔ _
      rw [WasmStore.hasContractInfo_eq, hrecords.raw]
      have hinfo := hrecords.infos a
      constructor
      · intro hsome
        obtain ⟨info, hget⟩ := Option.isSome_iff_exists.mp (by simpa using hsome)
        obtain ⟨c, hc, ha, -⟩ := (hinfo info).mp hget
        exact ⟨c, hc, ha⟩
      · rintro ⟨c, hc, ha⟩
        simp [(hinfo c.contractInfo).mpr ⟨c, hc, ha, rfl⟩]
    rw [← hbefore]
    exact hsequences.has _
  have hvalue := hsequences.instanceSequence hrecords.sequences
  constructor
  · intro hfree code hcode
    have hnext := nextAddressFree_iff.mp (hfree code.codeID ((hstored _).mpr ⟨code, hcode, rfl⟩))
    rw [hvalue, ← Bool.not_eq_true, htaken, not_or] at hnext
    exact ⟨fun c hc ha => hnext.1 ⟨c, hc, ha⟩, fun seq hseq hkey => hnext.2 ⟨seq, hseq, hkey⟩⟩
  · intro hunused codeID hcodeID
    obtain ⟨code, hcode, rfl⟩ := (hstored codeID).mp hcodeID
    obtain ⟨hcontracts, hkeys⟩ := hunused code hcode
    rw [nextAddressFree_iff, hvalue, ← Bool.not_eq_true, htaken, not_or]
    exact ⟨fun ⟨c, hc, ha⟩ => hcontracts c hc ha, fun ⟨seq, hseq, hkey⟩ => hkeys seq hseq hkey⟩

/-! ### One code and one contract -/

/-- Who stored the code. -/
def genesisCreator : AccAddress := .twenty 1

/-- A genesis state with the code 1 and one contract, which is the instance `n` of it; the sequence
of the instances is at 2.  The history names the code `codeID`. -/
def genesisWith (n codeID : UInt64) (extra : List Sequence) : GenesisState where
  params := defaultParams
  codes := [⟨1, ⟨[1], markedText genesisCreator, allowEverybody⟩, [1], false⟩]
  contracts := [⟨markedText ((plainKeeper Unit).buildContractAddressClassic 1 n),
    ⟨1, markedText genesisCreator, "", "label", ⟨10, 0⟩, "", "", none⟩, [],
    [⟨.init, codeID, ⟨10, 0⟩, [1]⟩]⟩]
  sequences := [⟨keySequenceCodeID, 2⟩, ⟨keySequenceInstanceID, 2⟩] ++ extra

/-- The import of it. -/
def importOf (data : GenesisState) :
    Except (Failure GoError) Unit × World (Multistore Unit) Shared :=
  (plainKeeper Unit).initGenesis data (plainWorld .empty (.infinite 0))

theorem importOf_ok {data : GenesisState} (h : (importOf data).1.toOption = some ()) :
    (plainKeeper Unit).initGenesis data (plainWorld .empty (.infinite 0)) =
      (.ok (), (importOf data).2) :=
  GoM.ok_of_toOption h

theorem next_address_free_first :
    (importOf (genesisWith 1 1 [])).1.toOption = some () ∧
      ∀ codeID, ((importOf (genesisWith 1 1 [])).2.ms.wasm.getCodeInfo codeID).isSome →
        NextAddressFree (plainKeeper Unit) codeID (importOf (genesisWith 1 1 [])).2 :=
  ⟨by decide +kernel,
    (next_address_free_iff (plainKeeper Unit) _ _ _ rfl (importOf_ok (by decide +kernel))).mpr
      (by decide +kernel)⟩

/-- The sequence of the instances is at 2, and the address of the instance 2 of the code 2 is free.
That of the instance 2 of the code 1 is not. -/
theorem next_address_taken :
    plainLib.validateGenesis (plainKeeper Unit).codec (genesisWith 2 1 []) = .ok () ∧
      (importOf (genesisWith 2 1 [])).1 = .ok () ∧
      ((importOf (genesisWith 2 1 [])).2.ms.wasm.getCodeInfo 1).isSome ∧
      ¬ NextAddressFree (plainKeeper Unit) 1 (importOf (genesisWith 2 1 [])).2 ∧
      ((plainKeeper Unit).newInstance ⟨10, 1, some 0, false, none, none, none, none⟩ 1
        (some genesisCreator) none [] "label" [] .classic .default
        (importOf (genesisWith 2 1 [])).2).1 = .error (.error (errDuplicate.wrap
          ("contract address already exists, " ++
            "try a different combination of creator, checksum and salt"))) := by
  refine ⟨by decide +kernel, by decide +kernel, by decide +kernel, ?_, by decide +kernel⟩
  rw [nextAddressFree_iff]
  decide +kernel

/-! ## The registry after genesis -/

/-- The history of a contract fits its record. -/
structure Contract.Consistent (c : Contract) : Prop where
  last : c.contractCodeHistory.getLast?.map (·.codeID) = some c.contractInfo.codeID
  first : c.contractCodeHistory.head?.map (·.updated) = some c.contractInfo.created
  length : c.contractCodeHistory.length < 2 ^ 64

section Registry

variable {codec : AddressCodec} {s : WasmStore} {R : AccAddress → Option (Registration codec)}

/-- **An imported contract** is registered in every family, if its history fits its record. -/
theorem HoldsRegistry.registerImport (h : HoldsRegistry s R) {a : AccAddress}
    (r : Registration codec) (hnone : R a = none) (hlength : r.history.length < 2 ^ 64)
    (hcode : (s.getCodeInfo r.info.codeID).isSome) :
    HoldsRegistry (s.registerImport r.creator a r.info r.history r.first r.last)
      (Function.update R a (some r)) := by
  have hcodeKey : contractByCreatedSecondaryIndexKey a r.last.codeID r.last.updated =
      r.codeIndexKey a := by
    rw [r.codeID_eq]
    rfl
  have hcreatorKey : contractByCreatorSecondaryIndexKey r.creator r.first.updated a =
      r.creatorIndexKey a := by
    rw [r.created_eq]
    rfl
  have happend := h.histories.append a r.history (by simpa [hnone] using hlength)
  simp only [hnone, Option.map_none, Option.getD_none, List.nil_append] at happend
  rw [WasmStore.registerImport, appendToContractHistory_eq]
  refine ⟨h.contracts_update a r fun b => rfl, h.codes_update a r hcode fun id => rfl, ?_, ?_, ?_,
    h.raw⟩
  · rw [history_update]
    exact happend.congr rfl
  · rw [map_update fun b r => r.codeIndexKey b, ← hcodeKey]
    exact h.codeIndex.insert (by simp [hnone]) _
  · rw [map_update fun b r => r.creatorIndexKey b, ← hcreatorKey]
    exact h.creatorIndex.insert (by simp [hnone]) _

/-- The contracts of a list were imported, and so were their histories, which are told by `H`. -/
structure HistoriesImported (codec : AddressCodec) (done : List Contract)
    (H : AccAddress → List ContractCodeHistoryEntry) (s : WasmStore) : Prop where
  histories : s.HoldsHistories H
  absent : ∀ a, s.getContractInfo a = none → H a = []
  imported : ∀ c ∈ done, ∃ a, codec.accAddressFromBech32 c.contractAddress = .ok a ∧
    s.getContractInfo a = some c.contractInfo ∧ H a = c.contractCodeHistory

/-- Appending removes nothing. -/
theorem isSome_appendHistory {a : AccAddress} {key : Bytes} :
    ∀ (entries : List ContractCodeHistoryEntry) (pos : UInt64) (s : WasmStore),
      (s.history[key]?).isSome →
        ((WasmStore.appendHistoryFrom a pos entries s).history[key]?).isSome := by
  intro entries
  induction entries with
  | nil => exact fun _ _ h => h
  | cons e rest ih => exact fun pos s h => ih (pos + 1) _ (isSome_insert h)

/-- Every entry has its position, counted modulo `2 ^ 64`. -/
theorem isSome_appended {a : AccAddress} :
    ∀ (entries : List ContractCodeHistoryEntry) (pos : UInt64) (s : WasmStore) (i : ℕ),
      i < entries.length → ((WasmStore.appendHistoryFrom a pos entries s).history[
        contractCodeHistoryElementKey a (pos + UInt64.ofNat i + 1)]?).isSome := by
  intro entries
  induction entries with
  | nil => exact fun _ _ i hi => absurd hi (Nat.not_lt_zero i)
  | cons e rest ih =>
      intro pos s i hi
      cases i with
      | zero =>
          refine isSome_appendHistory rest (pos + 1) _ ?_
          rw [show pos + UInt64.ofNat 0 + 1 = pos + 1 by simp]
          show ((s.history.insert _ e)[_]?).isSome
          rw [getElem?_insert_self]
          rfl
      | succ i =>
          have hpos : pos + UInt64.ofNat (i + 1) + 1 = pos + 1 + UInt64.ofNat i + 1 := by
            rw [UInt64.ofNat_add, show UInt64.ofNat 1 = 1 from rfl]
            ac_rfl
          rw [hpos]
          exact ih (pos + 1) _ i (by simpa using hi)

theorem Wrapped.registerImport (hw : Wrapped s) (creator a : AccAddress) (c : ContractInfo)
    (entries : List ContractCodeHistoryEntry) (first last : ContractCodeHistoryEntry) :
    Wrapped (s.registerImport creator a c entries first last) := by
  obtain ⟨b, hb⟩ := hw
  exact ⟨b, isSome_appendHistory entries _ s hb⟩

/-- One more contract: its history is told, or it has too many entries and goes on at zero. -/
theorem HistoriesImported.contract {done : List Contract}
    {H : AccAddress → List ContractCodeHistoryEntry} (h : HistoriesImported codec done H s)
    {c : Contract} {a creator : AccAddress} {first last : ContractCodeHistoryEntry}
    (ha : codec.accAddressFromBech32 c.contractAddress = .ok a) (hnew : s.getContractInfo a = none)
    {s' : WasmStore} (hs' : s'.registry = (s.registerImport creator a c.contractInfo
      c.contractCodeHistory first last).registry) :
    Wrapped s' ∨ ∃ H', HistoriesImported codec (done ++ [c]) H' s' := by
  have hhistory : s'.history = (s.appendToContractHistory a c.contractCodeHistory).history :=
    congrArg (·.history) hs'
  have hget : ∀ b, s'.getContractInfo b =
      (s.storeContractInfo a c.contractInfo).getContractInfo b :=
    fun b => (congrArg (·.getContractInfo b) hs').trans
      (getContractInfo_registerImport s creator a _ _ first last b)
  have hempty := h.absent a hnew
  by_cases hlength : c.contractCodeHistory.length < 2 ^ 64
  · right
    have happend := h.histories.append a c.contractCodeHistory (by simpa [hempty] using hlength)
    rw [hempty, List.nil_append] at happend
    refine ⟨_, happend.congr hhistory, fun b hb => ?_, fun c' hc' => ?_⟩
    · have hne : b ≠ a := by
        rintro rfl
        rw [hget, WasmStore.getContractInfo_storeContractInfo_self] at hb
        cases hb
      rw [hget, WasmStore.getContractInfo_storeContractInfo_of_ne _ _ hne] at hb
      rw [Function.update_of_ne hne]
      exact h.absent b hb
    · rcases List.mem_append.mp hc' with hold | hself
      · obtain ⟨b, hb, hinfo, hH⟩ := h.imported c' hold
        have hne : b ≠ a := by
          rintro rfl
          rw [hnew] at hinfo
          cases hinfo
        refine ⟨b, hb, ?_, ?_⟩
        · rw [hget, WasmStore.getContractInfo_storeContractInfo_of_ne _ _ hne]
          exact hinfo
        · rw [Function.update_of_ne hne]
          exact hH
      · obtain rfl := List.mem_singleton.mp hself
        refine ⟨a, ha, ?_, Function.update_self _ _ _⟩
        rw [hget, WasmStore.getContractInfo_storeContractInfo_self]
  · left
    refine ⟨a, ?_⟩
    have hpos : s.lastHistoryPosition a + UInt64.ofNat (2 ^ 64 - 1) + 1 = 0 := by
      rw [h.histories.lastHistoryPosition_eq, hempty]
      rfl
    rw [hhistory, ← hpos]
    exact isSome_appended _ _ s _ (by omega)

theorem importContracts_histories {contracts : List Contract}
    (hw : HistoriesImported k.codec [] (fun _ => []) w.ms.wasm)
    (h : k.importContracts contracts w = (.ok u, w')) :
    Wrapped w'.ms.wasm ∨ ∃ H, HistoriesImported k.codec contracts H w'.ms.wasm := by
  refine GoM.forEachFrom_rule
    (P := fun done w₁ => Wrapped w₁.ms.wasm ∨ ∃ H, HistoriesImported k.codec done H w₁.ms.wasm)
    (fun i done c w₁ _ w₂ _ hbody hw₁ => ?_) h (.inr ⟨_, hw⟩)
  obtain ⟨a, ha, hfound, first, creator, -, hs⟩ := importOne_ok hbody
  rcases hw₁ with hwrapped | ⟨H, hH⟩
  · obtain ⟨b, hb⟩ := hwrapped.registerImport creator a c.contractInfo c.contractCodeHistory first
      (c.contractCodeHistory.getLastD first)
    refine .inl ⟨b, ?_⟩
    rw [show w₂.ms.wasm.history = _ from congrArg (·.history) hs]
    exact hb
  · exact hH.contract ha (WasmStore.getContractInfo_eq_none hfound) hs

/-- A contract of a genesis state as it is registered. -/
def Contract.registration (c : Contract) (h : c.Consistent) {creator : AccAddress}
    {first : ContractCodeHistoryEntry} (hfirst : c.contractCodeHistory.head? = some first)
    (hcreator : codec.accAddressFromBech32 c.contractInfo.creator = .ok creator) :
    Registration codec where
  info := c.contractInfo
  creator := creator
  history := c.contractCodeHistory
  first := first
  last := c.contractCodeHistory.getLastD first
  head_eq := hfirst
  getLast_eq := by
    cases hl : c.contractCodeHistory with
    | nil => simp [hl] at hfirst
    | cons e rest => simp [List.getLast?_cons]
  creator_eq := hcreator
  created_eq := by
    have := h.first
    rw [hfirst] at this
    exact Option.some.inj this
  codeID_eq := by
    have := h.last
    cases hl : c.contractCodeHistory with
    | nil => simp [hl] at hfirst
    | cons e rest => simpa [hl, List.getLast?_cons] using this

theorem importContracts_registry {contracts : List Contract} (hw : Registry k.codec w.ms.wasm)
    (h : k.importContracts contracts w = (.ok u, w')) (hall : ∀ c ∈ contracts, c.Consistent) :
    Registry k.codec w'.ms.wasm := by
  refine GoM.forEachFrom_rule (P := fun _ w₁ => Registry k.codec w₁.ms.wasm)
    (fun i done c w₁ _ w₂ hmem hbody hw₁ => ?_) h hw
  obtain ⟨R, hR⟩ := hw₁
  obtain ⟨a, -, hfound, first, creator, ⟨hcode, hfirst, hcreator⟩, hs⟩ := importOne_ok hbody
  have hc := hall c hmem
  rw [WasmStore.containsCodeInfo_eq, hR.raw, Option.isSome_none, Bool.or_false] at hcode
  have hnone := hR.eq_none (WasmStore.getContractInfo_eq_none hfound)
  exact ⟨_,
    (hR.registerImport (c.registration hc hfirst hcreator) hnone hc.length hcode).congr_registry hs⟩

/-- The store before and after the sequences were imported: nothing changed but the two sequences of
the module. -/
structure SequencesOnly (s s' : WasmStore) : Prop where
  rest : { s' with sequences := ∅ } = { s with sequences := ∅ }
  others : ∀ key : Bytes, key ≠ keySequenceCodeID → key ≠ keySequenceInstanceID →
    s'.sequences[key]? = s.sequences[key]?

/-- The sequence is one of the two of the module. -/
def Sequence.Known (seq : Sequence) : Prop :=
  seq.idKey = keySequenceCodeID ∨ seq.idKey = keySequenceInstanceID

theorem SequencesOnly.has {s s' : WasmStore} (h : SequencesOnly s s') {key : Bytes}
    (hcode : key ≠ keySequenceCodeID) (hinstance : key ≠ keySequenceInstanceID) :
    s'.has key = s.has key :=
  WasmStore.has_congr (congrArg (·.codes[key]?) h.rest) (congrArg (·.contracts[key]?) h.rest)
    (congrArg (·.contractState[key]?) h.rest) (h.others key hcode hinstance)
    (congrArg (·.history[key]?) h.rest) (congrArg (·.codeIndex[key]?) h.rest)
    (congrArg (·.pinned[key]?) h.rest) (congrArg (·.creatorIndex[key]?) h.rest)
    (congrArg (·.params) h.rest) (congrArg (·.asyncAcks[key]?) h.rest)
    (congrArg (·.raw[key]?) h.rest)

theorem SequencesOnly.setBytes {s₀ s : WasmStore} (h : SequencesOnly s₀ s) {seq : Sequence}
    (hseq : seq.Known) (value : Bytes) : SequencesOnly s₀ (s.setBytes seq.idKey value) := by
  have hset : s.setBytes seq.idKey value =
      { s with sequences := s.sequences.insert seq.idKey value } := by
    rcases hseq with hkey | hkey <;> rw [hkey] <;> rfl
  rw [hset]
  refine ⟨h.rest, fun key hcode hinstance => ?_⟩
  have hne : key ≠ seq.idKey := by
    rcases hseq with hkey | hkey <;> rw [hkey] <;> assumption
  exact (getElem?_insert_of_ne _ _ hne).trans (h.others key hcode hinstance)

theorem importSequences_only {sequences : List Sequence}
    (h : (Keeper.importSequences sequences : KeeperM ε Unit) w = (.ok u, w'))
    (hall : ∀ seq ∈ sequences, seq.Known) : SequencesOnly w.ms.wasm w'.ms.wasm := by
  refine GoM.forEachFrom_rule (P := fun _ w₁ => SequencesOnly w.ms.wasm w₁.ms.wasm)
    (fun i done seq w₁ _ w₂ hmem hbody hw₁ => ?_) h ⟨rfl, fun _ _ _ => rfl⟩
  obtain ⟨-, hs⟩ := importAutoIncrementID_ok (GoM.mapError_ok_iff.mp hbody)
  rw [hs]
  exact hw₁.setBytes (hall seq hmem) _

/-- Codes alone leave the registry empty. -/
theorem CodesImported.holdsRegistry (codec : AddressCodec) {params : Option Params}
    {done : List Code} (h : CodesImported { WasmStore.empty with params := params } done s) :
    HoldsRegistry s fun _ => (none : Option (Registration codec)) :=
  (HoldsRegistry.initial params).congr (congrArg (·.contracts) h.rest) (congrArg (·.history) h.rest)
    (congrArg (·.codeIndex) h.rest) (congrArg (·.creatorIndex) h.rest) (congrArg (·.raw) h.rest)
    fun id hid => absurd hid (by simp [WasmStore.getCodeInfo, WasmStore.empty])

/-- **The registry after genesis.**  The store that a genesis state leads to satisfies the registry
invariant, and the import of the sequences changed nothing but the two sequences of the module,
exactly if the history of every contract fits its record and every sequence is one of the two. -/
theorem genesis_registry_iff (k : Keeper ε C) (data : GenesisState)
    (w w₁ w' : World (Multistore ε) Shared) (hempty : w.ms.wasm = .empty)
    (hrecords : k.importRecords data w = (.ok (), w₁)) (h : k.initGenesis data w = (.ok (), w')) :
    Registry k.codec w'.ms.wasm ∧ SequencesOnly w₁.ms.wasm w'.ms.wasm ↔
      (∀ c ∈ data.contracts, c.Consistent) ∧ ∀ seq ∈ data.sequences, seq.Known := by
  obtain ⟨_, w₂, hrecords', h₁⟩ := GoM.bind_ok_iff.mp h
  cases hrecords.symm.trans hrecords'
  obtain ⟨_, w₃, hsequences, h₂⟩ := GoM.bind_ok_iff.mp h₁
  obtain ⟨rfl, -⟩ := checkSequences_ok h₂
  obtain ⟨_, w₄, hparams, h₃⟩ := GoM.bind_ok_iff.mp hrecords
  obtain rfl := writeStore_ok_iff.mp hparams
  obtain ⟨_, w₅, hcodes, hcontracts⟩ := GoM.bind_ok_iff.mp h₃
  have hc := importCodes_ok hcodes
  dsimp only at hc
  rw [hempty] at hc
  constructor
  · rintro ⟨⟨R, hR⟩, honly⟩
    have himported := importSequences_ok hsequences
    constructor
    · intro c hmem
      have hstart : HistoriesImported k.codec [] (fun _ => []) w₅.ms.wasm :=
        ⟨(hc.holdsRegistry k.codec).histories, fun _ _ => rfl,
          fun c hc => absurd hc List.not_mem_nil⟩
      rcases importContracts_histories hstart hcontracts with hwrapped | ⟨H, hH⟩
      · refine absurd ?_ hR.not_wrapped
        obtain ⟨a, ha⟩ := hwrapped
        refine ⟨a, ?_⟩
        rw [show w'.ms.wasm.history = w₁.ms.wasm.history from congrArg (·.history) honly.rest]
        exact ha
      · obtain ⟨a, -, hinfo, hhistory⟩ := hH.imported c hmem
        have hget : w'.ms.wasm.getContractInfo a = some c.contractInfo :=
          (congrArg (·.getContractInfo a) honly.rest).trans hinfo
        obtain ⟨r, hr, hrinfo⟩ := hR.registration hget
        -- both descriptions of the histories tell what is stored
        have hsame : r.history = c.contractCodeHistory := by
          have hH' : w'.ms.wasm.HoldsHistories H :=
            hH.histories.congr (congrArg (·.history) honly.rest)
          have hstored := hH'.getContractHistory_eq a
          rw [hR.histories.getContractHistory_eq, hr, hhistory] at hstored
          exact hstored
        refine ⟨?_, ?_, ?_⟩
        · rw [← hsame, ← hrinfo, r.getLast_eq, Option.map_some, r.codeID_eq]
        · rw [← hsame, ← hrinfo, r.head_eq, Option.map_some, r.created_eq]
        · rw [← hhistory]
          exact hH.histories.length_lt a
    · intro seq hmem
      by_contra hunknown
      obtain ⟨hcode, hinstance⟩ := not_or.mp hunknown
      have hthere := (himported.has seq.idKey).mpr (.inr ⟨seq, hmem, rfl⟩)
      rw [honly.has hcode hinstance, himported.fresh seq hmem] at hthere
      cases hthere
  · rintro ⟨hconsistent, hknown⟩
    have honly := importSequences_only hsequences hknown
    obtain ⟨R, hR⟩ := importContracts_registry ⟨_, hc.holdsRegistry k.codec⟩ hcontracts hconsistent
    refine ⟨⟨R, hR.congr (congrArg (·.contracts) honly.rest) (congrArg (·.history) honly.rest)
      (congrArg (·.codeIndex) honly.rest) (congrArg (·.creatorIndex) honly.rest)
      (congrArg (·.raw) honly.rest) fun id hid => ?_⟩, honly⟩
    rw [show w'.ms.wasm.getCodeInfo id = w₁.ms.wasm.getCodeInfo id from
      congrArg (·.getCodeInfo id) honly.rest]
    exact hid

end Registry

/-- The import of the records of a genesis state. -/
def recordsOf (data : GenesisState) :
    Except (Failure GoError) Unit × World (Multistore Unit) Shared :=
  (plainKeeper Unit).importRecords data (plainWorld .empty (.infinite 0))

theorem recordsOf_ok {data : GenesisState} (h : (recordsOf data).1.toOption = some ()) :
    (plainKeeper Unit).importRecords data (plainWorld .empty (.infinite 0)) =
      (.ok (), (recordsOf data).2) :=
  GoM.ok_of_toOption h

theorem genesis_registry_first :
    Registry (plainKeeper Unit).codec (importOf (genesisWith 1 1 [])).2.ms.wasm ∧
      SequencesOnly (recordsOf (genesisWith 1 1 [])).2.ms.wasm
        (importOf (genesisWith 1 1 [])).2.ms.wasm := by
  refine (genesis_registry_iff (plainKeeper Unit) (genesisWith 1 1 []) _ _ _ rfl
    (recordsOf_ok (by decide +kernel)) (importOf_ok (by decide +kernel))).mpr ⟨?_, ?_⟩
  · intro c hc
    rw [List.mem_singleton.mp hc]
    exact ⟨rfl, rfl, by decide⟩
  · intro seq hseq
    rcases List.mem_cons.mp hseq with rfl | hseq
    · exact .inl rfl
    · rw [List.mem_singleton.mp hseq]
      exact .inr rfl

/-- A genesis state that passes all checks and leaves an inconsistent store: the record of the
contract names the code 1, its history, and therefore the index, the code 2; and a sequence lies
under the key of a code. -/
theorem genesis_inconsistent :
    plainLib.validateGenesis (plainKeeper Unit).codec (genesisWith 1 2 [⟨codeKey 7, 1⟩]) = .ok () ∧
      (recordsOf (genesisWith 1 2 [⟨codeKey 7, 1⟩])).1 = .ok () ∧
      (importOf (genesisWith 1 2 [⟨codeKey 7, 1⟩])).1 = .ok () ∧
      (importOf (genesisWith 1 2 [⟨codeKey 7, 1⟩])).2.ms.wasm.contractsByCode 1 = [] ∧
      ¬ Registry (plainKeeper Unit).codec (importOf (genesisWith 1 2 [⟨codeKey 7, 1⟩])).2.ms.wasm ∧
      ¬ SequencesOnly (recordsOf (genesisWith 1 2 [⟨codeKey 7, 1⟩])).2.ms.wasm
        (importOf (genesisWith 1 2 [⟨codeKey 7, 1⟩])).2.ms.wasm := by
  refine ⟨by decide +kernel, by decide +kernel, by decide +kernel, by decide +kernel, ?_, ?_⟩
  · rintro ⟨R, hR⟩
    have hraw := hR.raw (codeKey 7)
    have hsome :
        ((importOf (genesisWith 1 2 [⟨codeKey 7, 1⟩])).2.ms.wasm.raw[codeKey 7]?).isSome := by
      decide +kernel
    rw [hraw] at hsome
    cases hsome
  · intro honly
    have hsame : (importOf (genesisWith 1 2 [⟨codeKey 7, 1⟩])).2.ms.wasm.has (codeKey 7) =
        (recordsOf (genesisWith 1 2 [⟨codeKey 7, 1⟩])).2.ms.wasm.has (codeKey 7) :=
      honly.has (by decide) (by decide)
    revert hsame
    decide +kernel

end Wasmd
