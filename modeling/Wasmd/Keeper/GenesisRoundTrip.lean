import Wasmd.Keeper.ImportRuns

/-!
# The state survives an export and an import

* `exportGenesis_describes` — the export of an exportable state tells of all of it.
* `TransferAssumptions` — what is assumed of the VM, of the hash and of the two sequences.
* `RoundTrips` — the export is accepted by an empty chain, in any order, and the state is restored.
* `genesis_round_trip` — **the states that runs lead to survive**, unless a history has wrapped
  around.
* `genesis_round_trip_wraps` — one whose history has does not.
-/

namespace Wasmd

open ByteStore KVStore Effects Gas

variable {ε C : Type} {k : Keeper ε C} {m : Messenger ε C} {d : Durable} {data : GenesisState}
  {w w' : World (Multistore ε) Shared}

/-! ## The export -/

section Export

variable {s : WasmStore} {vm : VMState}

/-- Every code is shown once. -/
theorem nodup_codeInfos (h : s.CodeKeys) : (s.codeInfos.map Prod.fst).Nodup := by
  rw [WasmStore.codeInfos, List.map_map]
  refine List.pairwise_map.mpr ((pairwise_entries s.codes [0x01]).imp_of_mem ?_)
  rintro ⟨key, info⟩ ⟨key', info'⟩ hmem hmem' hlt heq
  obtain ⟨id, hid⟩ := h _ _ (mem_entries.mp hmem)
  obtain ⟨id', hid'⟩ := h _ _ (mem_entries.mp hmem')
  obtain rfl : key = uint64ToBigEndian id := (List.cons.inj hid).2
  obtain rfl : key' = uint64ToBigEndian id' := (List.cons.inj hid').2
  simp only [Function.comp_apply, bigEndianToUint64_uint64ToBigEndian] at heq
  rw [heq] at hlt
  simp at hlt

/-- A code in an export. -/
theorem exportCode_eq_ok_iff {id : UInt64} {info : CodeInfo} {c : Code}
    (hinfo : s.getCodeInfo id = some info) :
    (do
      let bytecode ← (Keeper.getByteCode s vm id).mapError Panic.message
      return (⟨id, info, bytecode, s.isPinnedCode id⟩ : Code)) = Except.ok c ↔
      vm.codes[info.codeHash]? = some c.codeBytes ∧ c.codeID = id ∧ c.codeInfo = info ∧
        c.pinned = s.isPinnedCode id := by
  rw [except_bind_ok_iff]
  constructor
  · rintro ⟨code, hcode, hret⟩
    cases hret
    exact ⟨getByteCode_ok hinfo (except_mapError_ok_iff.mp hcode), rfl, rfl, rfl⟩
  · rintro ⟨hfile, rfl, rfl, hpinned⟩
    refine ⟨c.codeBytes, except_mapError_ok_iff.mpr ?_, ?_⟩
    · rw [Keeper.getByteCode, hinfo]
      dsimp only
      rw [hfile]
    · rw [← hpinned]
      rfl

/-- **The export of an exportable state tells of all of it.** -/
theorem exportGenesis_describes {acks : List Handover} (hd : Exportable k ⟨s, acks, vm.codes⟩) :
    ∃ data, k.exportGenesis s vm = .ok data ∧ Describes k ⟨s, acks, vm.codes⟩ data := by
  obtain ⟨params, hparams⟩ := Option.isSome_iff_exists.mp hd.params
  have hinfos : ∀ x ∈ s.codeInfos, s.getCodeInfo x.1 = some x.2 := fun x hx =>
    hd.codeKeys.mem_codeInfos.mp hx
  obtain ⟨codes, hcodes⟩ : ∃ codes, Keeper.exportCodes s vm = .ok codes := by
    refine mapM_runs fun x hx => ?_
    obtain ⟨code, hcode⟩ := Option.isSome_iff_exists.mp (hd.filed x.1 x.2 (hinfos x hx))
    exact ⟨⟨x.1, x.2, code, s.isPinnedCode x.1⟩,
      (exportCode_eq_ok_iff (hinfos x hx)).mpr ⟨hcode, rfl, rfl, rfl⟩⟩
  refine ⟨⟨params, codes, k.exportContracts s, Keeper.exportSequences s⟩, ?_, hparams,
    fun c => ?_, ?_, fun c => ?_, ?_, .refl _⟩
  · rw [Keeper.exportGenesis, show s.params = some params from hparams, hcodes]
    rfl
  · rw [show c ∈ codes ↔ _ from mem_of_mapM_ok hcodes]
    constructor
    · rintro ⟨x, hx, hc⟩
      obtain ⟨hfile, hid, hinfo, hpinned⟩ := (exportCode_eq_ok_iff (hinfos x hx)).mp hc
      rw [hid, hinfo]
      exact ⟨hinfos x hx, hfile, hpinned⟩
    · rintro ⟨hinfo, hfile, hpinned⟩
      exact ⟨(c.codeID, c.codeInfo), hd.codeKeys.mem_codeInfos.mpr hinfo,
        (exportCode_eq_ok_iff hinfo).mpr ⟨hfile, rfl, rfl, hpinned⟩⟩
  · have hids : codes.map (·.codeID) = s.codeInfos.map Prod.fst := by
      refine map_of_mapM_ok hcodes fun x c hc => ?_
      obtain ⟨code, -, hret⟩ := except_bind_ok_iff.mp hc
      cases hret
      rfl
    rw [hids]
    exact nodup_codeInfos hd.codeKeys
  · rw [show c ∈ k.exportContracts s ↔ _ from List.mem_map]
    constructor
    · rintro ⟨x, hx, rfl⟩
      exact ⟨x.1, x.2, WasmStore.mem_contractInfos.mp hx, rfl⟩
    · rintro ⟨a, info, hinfo, rfl⟩
      exact ⟨(a, info), WasmStore.mem_contractInfos.mpr hinfo, rfl⟩
  · have haddresses : (k.exportContracts s).map (·.contractAddress) =
        (s.contractInfos.map Prod.fst).map k.codec.string := by
      rw [Keeper.exportContracts, List.map_map, List.map_map]
      rfl
    rw [haddresses]
    exact s.nodup_contractInfos.map k.codec.string_injective

end Export

/-! ## The round trip -/

/-- The same lists in another order. -/
structure GenesisState.Permutes (data' data : GenesisState) : Prop where
  params : data'.params = data.params
  codes : data'.codes.Perm data.codes
  contracts : data'.contracts.Perm data.contracts
  sequences : data'.sequences.Perm data.sequences

theorem Describes.perm (h : Describes k d data) {data' : GenesisState}
    (hperm : data'.Permutes data) : Describes k d data' where
  params := h.params.trans (by rw [hperm.params])
  codes c := hperm.codes.mem_iff.trans (h.codes c)
  codeIDs := (hperm.codes.map _).nodup_iff.mpr h.codeIDs
  contracts c := hperm.contracts.mem_iff.trans (h.contracts c)
  addresses := (hperm.contracts.map _).nodup_iff.mpr h.addresses
  sequences := hperm.sequences.trans h.sequences

/-- What is assumed of a chain whose state is moved: the VM has no archives among its files, takes
back what it has and loads it; the hash does not give a classic address to another key; and neither
of the two sequences has wrapped around. -/
structure TransferAssumptions (k : Keeper ε C) (st : ChainState ε) : Prop where
  files : ∀ checksum code : Bytes, st.vm.codes[checksum]? = some code →
    isGzip code = false ∧ k.wasmVM.compileUnchecked code = .ok ()
  loads : k.wasmVM.LoadsStored
  hashes : k.HashesApart
  codeSequence : ¬ CodeSequenceWrapped st.ms.wasm
  instanceSequence : ¬ InstanceSequenceWrapped k st.ms.wasm

/-- The state is exported, and an empty chain that has gas for the pinned codes imports the export
in any order and comes to the same state. -/
def RoundTrips (k : Keeper ε C) (st : ChainState ε) : Prop :=
  ∃ data, k.exportGenesis st.ms.wasm st.vm = .ok data ∧
    ∀ data' : GenesisState, data'.Permutes data →
      ∀ (w : World (Multistore ε) Shared) (used : UInt64), w.ms.wasm = .empty →
        w.gas = .infinite used →
        used.toNat + data'.codes.countP (·.pinned) * k.gasRegister.c.pinCodeCost.toNat < 2 ^ 64 →
        ∃ w', k.initGenesis data' w = (.ok (), w') ∧ SameGenesis st.ms.wasm w'.ms.wasm

/-- **The state survives an export and an import.**  Take any state that calls lead to from a chain
without codes and contracts, none of them simulated, and in which no history has wrapped around: its
export is imported in any order, and parameters, codes, contracts with their storage and histories,
both indices, pinned codes and the next ids are the same. -/
theorem genesis_round_trip (k : Keeper ε C) (m : Messenger ε C) (params : Params) (ext : ε)
    (st : ChainState ε)
    (h : Reached k m (fun call => call.simulates = false) (.initial (some params) ext) st)
    (hassume : TransferAssumptions k st) (hhistory : ¬ Wrapped st.ms.wasm) : RoundTrips k st := by
  have hd : Exportable k st.durable := h.exportable
  have hregistry : Registry k.codec st.ms.wasm :=
    (registry_or_wrapped h).resolve_right hhistory
  have hfree := (h.originsBelow hassume.instanceSequence).free hassume.hashes
    st.ms.wasm.nextInstanceID
  obtain ⟨data, hexport, hdescribes⟩ := exportGenesis_describes hd
  refine ⟨data, hexport, fun data' hperm w used hempty hgas hfit => ?_⟩
  have hdescribes' := hdescribes.perm hperm
  refine hdescribes'.restores hd hregistry (h.codesNumbered hassume.codeSequence)
    hfree hassume.loads (fun c hc => ?_) hempty hgas hfit
  obtain ⟨-, hfile, -⟩ := (hdescribes'.codes c).mp hc
  obtain ⟨hplain, hcompiles⟩ := hassume.files _ _ hfile
  exact ⟨hplain, hcompiles, (hd.named _ _ hfile).symm⟩

/-! ### A history that wraps around -/

/-- Keys of 16 bytes are kept apart from all others. -/
theorem plainModuleAddress_eq {key : Bytes} {codeID instanceID : UInt64}
    (h : plainModuleAddress key = plainModuleAddress (classicKey codeID instanceID)) :
    key = classicKey codeID instanceID := by
  have hclassic : (classicKey codeID instanceID).length = 16 := by simp [classicKey]
  obtain ⟨hhead, htail⟩ := List.cons.inj (congrArg AccAddress.bytes h)
  rw [if_pos hclassic] at hhead
  have hlen : key.length = 16 := by
    by_contra hne
    rw [if_neg hne] at hhead
    exact absurd hhead (by decide)
  have hcut : ∀ l : Bytes, l.length = 16 → ((l ++ List.replicate 31 0).take 31).take 16 = l := by
    intro l hl
    rw [List.take_take, Nat.min_eq_left (by decide), List.take_left' hl]
  rw [← hcut key hlen, htail, hcut _ hclassic]

/-- What the migrations of the contract keep: it is the only one, its first entry stays the first
one that was made, and what comes to lie at the position zero is a migration. -/
structure Turning (st : ChainState Unit) : Prop where
  rest : st.ms.wasm.withoutContracts = wrapStart.ms.wasm.withoutContracts
  files : st.vm.codes = wrapStart.vm.codes
  stored : (st.ms.wasm.getContractInfo wrapContract).isSome
  only : ∀ a, (st.ms.wasm.getContractInfo a).isSome → a = wrapContract
  first : ∃ e, st.ms.wasm.history[contractCodeHistoryElementKey wrapContract 1]? = some e ∧
    e.operation = .init
  zero : ∀ a e, st.ms.wasm.history[contractCodeHistoryElementKey a 0]? = some e →
    a = wrapContract ∧ e.operation = .migrate

namespace Turning

theorem start : Turning wrapStart where
  rest := rfl
  files := rfl
  stored := by decide +kernel
  only a ha := by
    have hkeys : wrapStart.ms.wasm.contracts.keys = [contractAddressKey wrapContract] := by
      decide +kernel
    have hmem := Std.ExtTreeMap.mem_keys.mpr (Std.ExtTreeMap.isSome_getElem?_iff_mem.mp ha)
    rw [hkeys, List.mem_singleton] at hmem
    exact contractKey_injective hmem
  first := by
    have hinit : (wrapStart.ms.wasm.history[contractCodeHistoryElementKey wrapContract 1]?).map
        (·.operation) = some .init := by decide +kernel
    exact Option.map_eq_some_iff.mp hinit
  zero a e he := absurd ⟨a, Option.isSome_of_eq_some he⟩ wrapStart_not_wrapped

variable {st st' : ChainState Unit}

theorem step (h : Turning st) (hstep : WrapStep st st') : Turning st' := by
  obtain ⟨info, last, position, hregistry⟩ := hstep.registry
  have hhistory : st'.ms.wasm.history = st.ms.wasm.history.insert (contractCodeHistoryElementKey
      wrapContract (st.ms.wasm.lastHistoryPosition wrapContract + 1)) ⟨.migrate, 1, position, []⟩ :=
    congrArg (·.history) hregistry
  have hget : ∀ a, st'.ms.wasm.getContractInfo a =
      (st.ms.wasm.storeContractInfo wrapContract info).getContractInfo a :=
    fun a => congrArg (·.getContractInfo a) hregistry
  refine ⟨?_, hstep.files.trans h.files, ?_, fun a ha => ?_, ?_, fun a e he => ?_⟩
  · have hrest := congrArg WasmStore.withoutContracts hregistry
    exact Eq.trans hrest h.rest
  · rw [hget, WasmStore.getContractInfo_storeContractInfo_self]
    rfl
  · by_contra hne
    rw [hget, WasmStore.getContractInfo_storeContractInfo_of_ne _ _ hne] at ha
    exact hne (h.only a ha)
  · obtain ⟨e, he, hinit⟩ := h.first
    refine ⟨e, ?_, hinit⟩
    rw [hhistory, getElem?_insert_of_ne, he]
    intro hkey
    have hlast : st.ms.wasm.lastHistoryPosition wrapContract + 1 = 0 + 1 :=
      (historyKey_inj hkey).2.symm
    exact hstep.started (by simpa using hlast)
  · rw [hhistory] at he
    by_cases hkey : contractCodeHistoryElementKey a 0 = contractCodeHistoryElementKey wrapContract
        (st.ms.wasm.lastHistoryPosition wrapContract + 1)
    · rw [hkey, getElem?_insert_self] at he
      cases he
      exact ⟨(historyKey_inj hkey).1, rfl⟩
    · rw [getElem?_insert_of_ne _ _ hkey] at he
      exact h.zero a e he

theorem assumptions (h : Turning st) : TransferAssumptions wrapKeeper st where
  files checksum code hcode := by
    have hfiles : wrapStart.vm.codes.toList = [([1], [1])] := by decide +kernel
    rw [h.files, ← Std.ExtTreeMap.mem_toList_iff_getElem?_eq_some, hfiles,
      List.mem_singleton] at hcode
    cases hcode
    exact ⟨by decide, rfl⟩
  loads _ _ _ := rfl
  hashes _ _ _ heq := plainModuleAddress_eq heq
  codeSequence := by
    unfold CodeSequenceWrapped
    rw [show st.ms.wasm.getCodeInfo lastID = wrapStart.ms.wasm.getCodeInfo lastID from
      congrArg (·.getCodeInfo lastID) h.rest]
    decide +kernel
  instanceSequence := by
    rintro ⟨codeID, hsome⟩
    have hkey : classicKey codeID lastID = classicKey 1 1 := plainModuleAddress_eq (h.only _ hsome)
    exact absurd (classicKey_inj hkey).2 (by decide)

end Turning

/-- The first entry of an imported history lies at the first position, also if there are as many as
there are positions. -/
theorem imported_first_entry (hempty : w.ms.wasm = .empty) (h : k.initGenesis data w = (.ok (), w'))
    {c : Contract} {a : AccAddress} (hcontracts : data.contracts = [c])
    (ha : k.codec.accAddressFromBech32 c.contractAddress = .ok a) {e : ContractCodeHistoryEntry}
    {rest : List ContractCodeHistoryEntry} (hhistory : c.contractCodeHistory = e :: rest)
    (hlength : rest.length < 2 ^ 64) :
    w'.ms.wasm.history[contractCodeHistoryElementKey a 1]? = some e := by
  obtain ⟨w₁, hrecords, -, hsequences⟩ := initGenesis_ok hempty h
  obtain ⟨_, w₂, hparams, h₁⟩ := GoM.bind_ok_iff.mp hrecords
  obtain rfl := writeStore_ok_iff.mp hparams
  obtain ⟨_, w₃, hcodes, hloop⟩ := GoM.bind_ok_iff.mp h₁
  have hnone : w₃.ms.wasm.history = ∅ := by
    refine (congrArg (·.history) (importCodes_ok hcodes).rest).trans ?_
    show w.ms.wasm.history = ∅
    rw [hempty]
    rfl
  rw [hcontracts] at hloop
  obtain ⟨_, w₄, hone, hend⟩ := GoM.bind_ok_iff.mp hloop
  obtain ⟨-, rfl⟩ := GoM.pure_ok_iff.mp hend
  obtain ⟨a', ha', -, first, creator, -, hregistry⟩ := importOne_ok hone
  obtain rfl : a = a' := Except.ok.inj (ha.symm.trans ha')
  have hposition : w₃.ms.wasm.lastHistoryPosition a = 0 := by
    unfold WasmStore.lastHistoryPosition WasmStore.historyEntries
    rw [hnone]
    rfl
  have happended : w₁.ms.wasm.history =
      (w₃.ms.wasm.appendToContractHistory a c.contractCodeHistory).history :=
    congrArg (·.history) hregistry
  rw [show w'.ms.wasm.history = w₁.ms.wasm.history from congrArg (·.history) hsequences.records,
    happended, hhistory, WasmStore.appendToContractHistory, WasmStore.history_appendHistoryFrom,
    hposition]
  exact getElem?_appendFrom_first hlength

/-- The position zero comes first in the export, and the import starts at the position one. -/
theorem Turning.not_roundTrips {st : ChainState Unit} (h : Turning st)
    (hd : Exportable wrapKeeper st.durable) (hwrapped : Wrapped st.ms.wasm) :
    ¬ RoundTrips wrapKeeper st := by
  rintro ⟨data, hexport, hall⟩
  obtain ⟨data', hexport', hdescribes⟩ := exportGenesis_describes hd
  cases hexport.symm.trans hexport'
  obtain ⟨info, hinfo⟩ := Option.isSome_iff_exists.mp h.stored
  have hcontracts :
      data.contracts = [wrapKeeper.exportedContract st.ms.wasm wrapContract info] := by
    refine List.perm_singleton.mp ((List.perm_ext_iff_of_nodup
      (List.Nodup.of_map _ hdescribes.addresses) (List.nodup_singleton _)).mpr fun c => ?_)
    rw [hdescribes.contracts, List.mem_singleton]
    constructor
    · rintro ⟨a, info', hinfo', rfl⟩
      obtain rfl := h.only a (Option.isSome_of_eq_some hinfo')
      cases hinfo.symm.trans hinfo'
      rfl
    · rintro rfl
      exact ⟨wrapContract, info, hinfo, rfl⟩
  have hpinned : data.codes.countP (·.pinned) = 0 := by
    refine List.countP_eq_zero.mpr fun c hc => ?_
    have hnone : st.ms.wasm.pinned = ∅ := (congrArg (·.pinned) h.rest).trans
      (Std.ExtTreeMap.isEmpty_iff.mp (by decide +kernel))
    rw [((hdescribes.codes c).mp hc).2.2]
    show ¬ st.ms.wasm.pinned[pinnedCodeIndexPrefix c.codeID]?.isSome = true
    rw [hnone]
    exact Bool.false_ne_true
  obtain ⟨w', himport, hsame⟩ := hall data ⟨rfl, .refl _, .refl _, .refl _⟩
    (plainWorld .empty (.infinite 0)) 0 rfl rfl (by rw [hpinned]; decide)
  obtain ⟨a, ha⟩ := hwrapped
  obtain ⟨e, he⟩ := Option.isSome_iff_exists.mp ha
  obtain ⟨rfl, hmigrated⟩ := h.zero a e he
  have hentries : (st.ms.wasm.historyEntries wrapContract).head? = some (0, e) :=
    head?_logEntries he
  have hhead : (st.ms.wasm.getContractHistory wrapContract).head? = some e := by
    rw [WasmStore.getContractHistory, List.head?_map, hentries]
    rfl
  obtain ⟨rest, hrest⟩ := List.head?_eq_some_iff.mp hhead
  have hlength : rest.length < 2 ^ 64 := by
    have hle : (st.ms.wasm.historyEntries wrapContract).length ≤ 2 ^ 64 := length_logEntries_le _ _
    have hcount := congrArg List.length hrest
    rw [WasmStore.getContractHistory, List.length_map, List.length_cons] at hcount
    omega
  have hfirst :=
    imported_first_entry rfl himport hcontracts (wrapKeeper.codec.decode_string _) hrest
    hlength
  obtain ⟨e₁, he₁, hinit⟩ := h.first
  rw [hsame.history, he₁] at hfirst
  cases hfirst
  rw [hinit] at hmigrated
  cases hmigrated

/-- A code and a contract of it. -/
theorem genesis_round_trip_instantiated : RoundTrips wrapKeeper wrapStart :=
  genesis_round_trip wrapKeeper sendMessenger defaultParams () wrapStart
    (wrapStart_reached fun _ hcall => hcall) Turning.start.assumptions wrapStart_not_wrapped

/-- **A history that has wrapped around does not survive.**  The entry at the position zero is the
last one that was made, and becomes the first one. -/
theorem genesis_round_trip_wraps : ∃ st,
    Reached wrapKeeper sendMessenger (fun call => call.simulates = false)
      (.initial (some defaultParams) ()) st ∧
    TransferAssumptions wrapKeeper st ∧ ¬ RoundTrips wrapKeeper st := by
  obtain ⟨st, hrun, hwrapped, hst⟩ := wrapStart_wraps (P := fun call => call.simulates = false) rfl
    (fun _ _ hstep h => Turning.step h hstep) Turning.start
  have hreached : Reached wrapKeeper sendMessenger (fun call => call.simulates = false)
      (.initial (some defaultParams) ()) st := (wrapStart_reached fun _ hcall => hcall).trans hrun
  exact ⟨st, hreached, hst.assumptions, hst.not_roundTrips hreached.exportable hwrapped⟩

end Wasmd
