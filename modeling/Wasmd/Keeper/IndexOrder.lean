import Wasmd.Keeper.Genesis
import Wasmd.Keeper.Registry

/-!
# The order of the indices

The keys of both secondary indices go on with a position and end with an address, so that iterations
follow the positions (`keeper.go`, `types.go`).  The index by creator came with version 2 of the
store (`migrations/v1`).

* `Before` — the order of positions, and of addresses at the same position.
* `exists_ordered` — an iteration over positions and addresses is in that order.
* `position_order` — the index by code, after any insertions and removals.
* `migrate1to2`, `creator_index_built` — the migration builds the index that instantiations keep.
-/

namespace Wasmd

open ByteStore KVStore Effects

/-! ## Iterations -/

/-- A position and an address at it. -/
abbrev Placed := AbsoluteTxPosition × AccAddress

/-- Earlier, or at the same position with a smaller address. -/
def Before (x y : Placed) : Prop :=
  AbsoluteTxPosition.lessThan (some x.1) (some y.1) = true ∨
    x.1 = y.1 ∧ compare x.2.bytes y.2.bytes = .lt

/-- The end of a key. -/
def Placed.bytes (x : Placed) : Bytes := x.1.bytes ++ x.2.bytes

theorem Placed.bytes_injective : Function.Injective Placed.bytes := by
  rintro ⟨p, a⟩ ⟨q, b⟩ h
  obtain ⟨hp, ha⟩ := List.append_inj h (by simp)
  exact Prod.ext (AbsoluteTxPosition.bytes_injective hp) (AccAddress.bytes_injective ha)

theorem before_iff {x y : Placed} : Before x y ↔ compare x.bytes y.bytes = .lt :=
  AbsoluteTxPosition.compare_bytes_append_lt_iff.symm

/-- **An iteration over positions and addresses** shows each once, in order. -/
theorem exists_ordered {m : KVStore Unit} {p : Bytes} {held : Placed → Prop}
    (h : ∀ k, m[p ++ k]? = some () ↔ ∃ x, held x ∧ k = Placed.bytes x) :
    ∃ l : List Placed,
      ((entries m p).map fun kv => kv.1.drop absoluteTxPositionLen) = l.map (·.2.bytes) ∧
        l.Pairwise Before ∧ ∀ x, x ∈ l ↔ held x := by
  have hshape : entries m p ∈ Set.range (List.map fun x : Placed => (x.bytes, ())) := by
    rw [Set.range_list_map]
    rintro ⟨k, u⟩ hkv
    obtain ⟨x, -, rfl⟩ := (h k).mp (mem_entries.mp hkv)
    exact ⟨x, rfl⟩
  obtain ⟨l, hl⟩ := hshape
  refine ⟨l, ?_, ?_, fun x => ?_⟩
  · rw [← hl, List.map_map]
    exact List.map_congr_left fun x _ => HoldsRegistry.drop_position x.1 x.2
  · have hordered := pairwise_entries m p
    rw [← hl, List.pairwise_map] at hordered
    exact hordered.imp fun hlt => before_iff.mpr hlt
  · have hmem : (x.bytes, ()) ∈ entries m p ↔ held x := by
      rw [mem_entries, h]
      constructor
      · rintro ⟨y, hy, heq⟩
        exact Placed.bytes_injective heq ▸ hy
      · intro hx
        exact ⟨x, hx, rfl⟩
    rw [← hmem, ← hl, List.mem_map]
    constructor
    · intro hx
      exact ⟨x, hx, rfl⟩
    · rintro ⟨y, hy, heq⟩
      exact Placed.bytes_injective (Prod.mk.inj heq).1 ▸ hy

/-! ## The index by code -/

/-- A call that changes the index by code. -/
inductive CodeIndexCall where
  | add (contractAddress : AccAddress) (entry : ContractCodeHistoryEntry)
  | remove (contractAddress : AccAddress) (entry : ContractCodeHistoryEntry)

namespace CodeIndexCall

/-- The call on the store. -/
def run (s : WasmStore) : CodeIndexCall → WasmStore
  | add contractAddress entry => s.addToContractCodeSecondaryIndex contractAddress entry
  | remove contractAddress entry => s.removeFromContractCodeSecondaryIndex contractAddress entry

/-- What is inserted and not removed: contracts with a code and a position. -/
def held (S : Set (AccAddress × UInt64 × AbsoluteTxPosition)) :
    CodeIndexCall → Set (AccAddress × UInt64 × AbsoluteTxPosition)
  | add contractAddress entry => insert (contractAddress, entry.codeID, entry.updated) S
  | remove contractAddress entry => S \ {(contractAddress, entry.codeID, entry.updated)}

/-- The key of a contract with a code and a position. -/
def key (x : AccAddress × UInt64 × AbsoluteTxPosition) : Bytes :=
  contractByCreatedSecondaryIndexKey x.1 x.2.1 x.2.2

theorem key_injective : Function.Injective key := by
  rintro ⟨a, c, p⟩ ⟨b, d, q⟩ h
  obtain ⟨rfl, rfl, rfl⟩ := codeIndexKey_inj h
  rfl

/-- The index by code holds the keys of a set. -/
def Holds (s : WasmStore) (S : Set (AccAddress × UInt64 × AbsoluteTxPosition)) : Prop :=
  ∀ k, s.codeIndex[k]? = some () ↔ ∃ x ∈ S, k = key x

theorem Holds.step {s : WasmStore} {S : Set (AccAddress × UInt64 × AbsoluteTxPosition)}
    (h : Holds s S) (call : CodeIndexCall) : Holds (call.run s) (call.held S) := by
  intro k
  cases call with
  | add a e =>
      show (s.codeIndex.insert (key (a, e.codeID, e.updated)) ())[k]? = some () ↔ _
      by_cases hk : k = key (a, e.codeID, e.updated)
      · subst hk
        exact iff_of_true (getElem?_insert_self _ _ _) ⟨_, Set.mem_insert _ _, rfl⟩
      · rw [getElem?_insert_of_ne _ _ hk, h]
        constructor
        · rintro ⟨x, hx, rfl⟩
          exact ⟨x, Set.mem_insert_of_mem _ hx, rfl⟩
        · rintro ⟨x, hx | hx, rfl⟩
          · exact absurd (congrArg key hx) hk
          · exact ⟨x, hx, rfl⟩
  | remove a e =>
      show (s.codeIndex.erase (key (a, e.codeID, e.updated)))[k]? = some () ↔ _
      by_cases hk : k = key (a, e.codeID, e.updated)
      · subst hk
        rw [getElem?_erase_self]
        refine iff_of_false nofun ?_
        rintro ⟨x, hx, heq⟩
        exact hx.2 (key_injective heq).symm
      · rw [getElem?_erase_of_ne _ hk, h]
        constructor
        · rintro ⟨x, hx, rfl⟩
          exact ⟨x, ⟨hx, fun heq => hk (congrArg key heq)⟩, rfl⟩
        · rintro ⟨x, hx, rfl⟩
          exact ⟨x, hx.1, rfl⟩

theorem Holds.run_all {s : WasmStore} {S : Set (AccAddress × UInt64 × AbsoluteTxPosition)}
    (h : Holds s S) (calls : List CodeIndexCall) :
    Holds (calls.foldl run s) (calls.foldl held S) := by
  induction calls generalizing s S with
  | nil => exact h
  | cons call calls ih => exact ih (h.step call)

/-- The contracts of a code, with their positions. -/
theorem Holds.under {s : WasmStore} {S : Set (AccAddress × UInt64 × AbsoluteTxPosition)}
    (h : Holds s S) (codeID : UInt64) (k : Bytes) :
    s.codeIndex[contractByCodeIDSecondaryIndexPrefix codeID ++ k]? = some () ↔
      ∃ x : Placed, (x.2, codeID, x.1) ∈ S ∧ k = Placed.bytes x := by
  rw [h]
  constructor
  · rintro ⟨⟨a, c, p⟩, hx, hkey⟩
    simp only [key, contractByCreatedSecondaryIndexKey, List.append_assoc] at hkey
    obtain ⟨hcode, rfl⟩ := List.append_inj hkey (by simp [contractByCodeIDSecondaryIndexPrefix])
    obtain rfl := uint64ToBigEndian_injective (List.cons.inj hcode).2
    exact ⟨(p, a), hx, rfl⟩
  · rintro ⟨x, hx, rfl⟩
    refine ⟨_, hx, ?_⟩
    rw [Placed.bytes, ← List.append_assoc]
    rfl

end CodeIndexCall

/-- **Positions are ordered like their bytes**, and so is the index by code: after any insertions
and removals, the contracts of a code come in the order of their positions, and of their addresses
at the same position. -/
theorem position_order :
    (∀ p q : AbsoluteTxPosition, AbsoluteTxPosition.lessThan (some p) (some q) = true ↔
      compare p.bytes q.bytes = .lt) ∧
    (∀ p q : AbsoluteTxPosition, p.bytes = q.bytes → p = q) ∧
    ∀ (calls : List CodeIndexCall) (codeID : UInt64), ∃ l : List Placed,
      (calls.foldl CodeIndexCall.run .empty).contractsByCode codeID = l.map (·.2.bytes) ∧
        l.Pairwise Before ∧
        ∀ p a, (p, a) ∈ l ↔ (a, codeID, p) ∈ calls.foldl CodeIndexCall.held ∅ := by
  refine ⟨fun p q => AbsoluteTxPosition.compare_bytes_lt_iff.symm,
    fun p q h => AbsoluteTxPosition.bytes_injective h, fun calls codeID => ?_⟩
  have hempty : CodeIndexCall.Holds .empty ∅ := by
    intro k
    refine iff_of_false (fun h => ?_) (by simp)
    cases (show (none : Option Unit) = some () from h)
  obtain ⟨l, hl, hordered, hmem⟩ := exists_ordered ((hempty.run_all calls).under codeID)
  exact ⟨l, hl, hordered, fun p a => hmem (p, a)⟩

/-! ## The migration of the store from version 1 to version 2 -/

/-- The loop of `Migrate1to2`; the address is decoded or panics, and adding to the index does not
fail. -/
def migrate1to2Loop (codec : AddressCodec) :
    List (AccAddress × ContractInfo) → WasmStore → Except Panic WasmStore
  | [], s => .ok s
  | (contractAddr, contractInfo) :: rest, s =>
    match codec.accAddressFromBech32 contractInfo.creator with
    | .error e => .error (.message e)
    | .ok creator =>
      migrate1to2Loop codec rest
        (s.addToContractCreatorSecondaryIndex creator contractInfo.created contractAddr)

/-- `Migrate1to2`. -/
def migrate1to2 (codec : AddressCodec) (s : WasmStore) : Except Panic WasmStore :=
  migrate1to2Loop codec s.contractInfos s

/-- The key that the index by creator has for a contract. -/
def CreatorKey (codec : AddressCodec) (contracts : List (AccAddress × ContractInfo)) (k : Bytes) :
    Prop :=
  ∃ a info creator, (a, info) ∈ contracts ∧ codec.accAddressFromBech32 info.creator = .ok creator ∧
    k = contractByCreatorSecondaryIndexKey creator info.created a

/-- **The loop adds the keys of the contracts**, by induction on the contracts that are left. -/
theorem migrate1to2Loop_run {codec : AddressCodec} {contracts : List (AccAddress × ContractInfo)}
    (hvalid : ∀ x ∈ contracts, ∃ creator, codec.accAddressFromBech32 x.2.creator = .ok creator)
    (s : WasmStore) :
    ∃ index, migrate1to2Loop codec contracts s = .ok { s with creatorIndex := index } ∧
      ∀ k, index[k]? = some () ↔ s.creatorIndex[k]? = some () ∨ CreatorKey codec contracts k := by
  induction contracts generalizing s with
  | nil => exact ⟨s.creatorIndex, rfl, fun k => by simp [CreatorKey]⟩
  | cons x rest ih =>
      obtain ⟨a, info⟩ := x
      obtain ⟨creator, hcreator⟩ := hvalid (a, info) List.mem_cons_self
      obtain ⟨index, hrun, hindex⟩ := ih (fun y hy => hvalid y (List.mem_cons_of_mem _ hy))
        (s.addToContractCreatorSecondaryIndex creator info.created a)
      refine ⟨index, ?_, fun k => ?_⟩
      · rw [migrate1to2Loop, hcreator]
        exact hrun
      · have hadded :
            (s.addToContractCreatorSecondaryIndex creator info.created a).creatorIndex[k]? =
            some () ↔ s.creatorIndex[k]? = some () ∨
              k = contractByCreatorSecondaryIndexKey creator info.created a := by
          by_cases hk : k = contractByCreatorSecondaryIndexKey creator info.created a
          · subst hk
            exact iff_of_true (getElem?_insert_self _ _ _) (Or.inr rfl)
          · rw [or_iff_left hk]
            exact iff_of_eq (congrArg (· = some ()) (getElem?_insert_of_ne _ _ hk))
        have hcons : CreatorKey codec ((a, info) :: rest) k ↔
            k = contractByCreatorSecondaryIndexKey creator info.created a ∨
                CreatorKey codec rest k := by
          constructor
          · rintro ⟨b, info', creator', hmem, hcreator', rfl⟩
            rcases List.mem_cons.mp hmem with heq | hmem
            · cases heq
              obtain rfl := Except.ok.inj (hcreator.symm.trans hcreator')
              exact Or.inl rfl
            · exact Or.inr ⟨b, info', creator', hmem, hcreator', rfl⟩
          · rintro (rfl | ⟨b, info', creator', hmem, hcreator', rfl⟩)
            · exact ⟨a, info, creator, List.mem_cons_self, hcreator, rfl⟩
            · exact ⟨b, info', creator', List.mem_cons_of_mem _ hmem, hcreator', rfl⟩
        rw [hindex, hadded, hcons, or_assoc]

/-- The key that the index by creator has for an address, if it is that of a contract. -/
def creatorKeyOf (codec : AddressCodec) (s : WasmStore) (a : AccAddress) : Option Bytes := do
  let info ← s.getContractInfo a
  let creator ← (codec.accAddressFromBech32 info.creator).toOption
  return contractByCreatorSecondaryIndexKey creator info.created a

theorem creatorKeyOf_eq_some_iff {codec : AddressCodec} {s : WasmStore}
    {a : AccAddress} {k : Bytes} :
    creatorKeyOf codec s a = some k ↔ ∃ info creator, s.getContractInfo a = some info ∧
      codec.accAddressFromBech32 info.creator = .ok creator ∧
      k = contractByCreatorSecondaryIndexKey creator info.created a := by
  unfold creatorKeyOf
  cases s.getContractInfo a with
  | none => simp
  | some info =>
      cases hdecode : codec.accAddressFromBech32 info.creator <;>
        simp [hdecode, Except.toOption, eq_comm]

/-- What the migration makes of a store. -/
structure BuildsCreatorIndex (codec : AddressCodec) (s s' : WasmStore) : Prop where
  /-- Nothing else changes. -/
  only : s' = { s with creatorIndex := s'.creatorIndex }
  /-- The index holds one key for each contract. -/
  keys : Indexes s'.creatorIndex (creatorKeyOf codec s)
  /-- No two contracts have the same key. -/
  apart : ∀ a b k, creatorKeyOf codec s a = some k → creatorKeyOf codec s b = some k → a = b
  /-- The contracts of a creator are iterated in the order of their creation. -/
  ordered : ∀ creator, ∃ l : List Placed, s'.contractsByCreator creator = l.map (·.2.bytes) ∧
    l.Pairwise Before ∧ ∀ p a, (p, a) ∈ l ↔ ∃ info, s.getContractInfo a = some info ∧
      info.created = p ∧ codec.accAddressFromBech32 info.creator = .ok creator
  /-- It is the index that instantiations would have kept. -/
  maintained : ∀ t, Registry codec t → (∀ a, t.getContractInfo a = s.getContractInfo a) →
    t.creatorIndex = s'.creatorIndex

theorem creatorIndex_under {codec : AddressCodec} {s : WasmStore} {index : KVStore Unit}
    (h : Indexes index (creatorKeyOf codec s)) (creator : AccAddress) (k : Bytes) :
    index[contractsByCreatorPrefix creator ++ k]? = some () ↔
      ∃ x : Placed, (∃ info, s.getContractInfo x.2 = some info ∧ info.created = x.1 ∧
        codec.accAddressFromBech32 info.creator = .ok creator) ∧ k = Placed.bytes x := by
  rw [h]
  constructor
  · rintro ⟨a, hkey⟩
    obtain ⟨info, creator', hinfo, hcreator, heq⟩ := creatorKeyOf_eq_some_iff.mp hkey
    rw [contractByCreatorSecondaryIndexKey, List.append_assoc] at heq
    obtain ⟨rfl, rfl⟩ := creatorPrefix_inj heq
    exact ⟨(info.created, a), ⟨info, hinfo, rfl, hcreator⟩, rfl⟩
  · rintro ⟨⟨p, a⟩, ⟨info, hinfo, rfl, hcreator⟩, rfl⟩
    refine ⟨a, creatorKeyOf_eq_some_iff.mpr ⟨info, creator, hinfo, hcreator, ?_⟩⟩
    rw [Placed.bytes, ← List.append_assoc]
    rfl

/-- The index of a registry is determined by its contracts. -/
theorem Registry.indexes_creatorIndex {codec : AddressCodec} {t : WasmStore}
    (h : Registry codec t) : Indexes t.creatorIndex (creatorKeyOf codec t) := by
  obtain ⟨R, hR⟩ := h
  intro k
  rw [hR.creatorIndex]
  refine exists_congr fun a => ?_
  rw [creatorKeyOf_eq_some_iff]
  constructor
  · intro hk
    obtain ⟨r, hr, rfl⟩ := Option.map_eq_some_iff.mp hk
    exact ⟨r.info, r.creator, by rw [hR.contracts, hr]; rfl, r.creator_eq, rfl⟩
  · rintro ⟨info, creator, hinfo, hcreator, rfl⟩
    obtain ⟨r, hr, rfl⟩ := hR.registration hinfo
    obtain rfl := Except.ok.inj (r.creator_eq.symm.trans hcreator)
    dsimp only
    rw [hr]
    rfl

/-- **The migration builds the index by creator** of a store without one, as instantiations would
have kept it. -/
theorem creator_index_built (codec : AddressCodec) (s : WasmStore) (hnone : s.creatorIndex = ∅)
    (hvalid : ∀ a info, s.getContractInfo a = some info →
      ∃ creator, codec.accAddressFromBech32 info.creator = .ok creator) :
    ∃ s', migrate1to2 codec s = .ok s' ∧ BuildsCreatorIndex codec s s' := by
  obtain ⟨index, hrun, hindex⟩ := migrate1to2Loop_run
    (fun x hx => hvalid x.1 x.2 (WasmStore.mem_contractInfos.mp hx)) s
  have hkeys : Indexes index (creatorKeyOf codec s) := by
    intro k
    rw [hindex, hnone,
      or_iff_right (fun h => by cases (show (none : Option Unit) = some () from h))]
    constructor
    · rintro ⟨a, info, creator, hmem, hcreator, rfl⟩
      exact ⟨a, creatorKeyOf_eq_some_iff.mpr
        ⟨info, creator, WasmStore.mem_contractInfos.mp hmem, hcreator, rfl⟩⟩
    · rintro ⟨a, hkey⟩
      obtain ⟨info, creator, hinfo, hcreator, rfl⟩ := creatorKeyOf_eq_some_iff.mp hkey
      exact ⟨a, info, creator, WasmStore.mem_contractInfos.mpr hinfo, hcreator, rfl⟩
  refine ⟨_, hrun, rfl, hkeys, ?_, fun creator => ?_, fun t ht hsame => ?_⟩
  · intro a b k ha hb
    obtain ⟨info, creator, -, -, rfl⟩ := creatorKeyOf_eq_some_iff.mp ha
    obtain ⟨info', creator', -, -, heq⟩ := creatorKeyOf_eq_some_iff.mp hb
    exact (creatorIndexKey_inj heq).2.2
  · obtain ⟨l, hl, hordered, hmem⟩ := exists_ordered (creatorIndex_under hkeys creator)
    exact ⟨l, hl, hordered, fun p a => hmem (p, a)⟩
  · have hfun : creatorKeyOf codec t = creatorKeyOf codec s := by
      funext a
      unfold creatorKeyOf
      rw [hsame]
    have hindexes := ht.indexes_creatorIndex
    rw [hfun] at hindexes
    exact Indexes.unique hindexes hkeys

/-- A codec for any addresses. -/
def indexCodec : AddressCodec := AddressTable.empty.codec

/-- An address. -/
def indexAddress (n : UInt8) : AccAddress := .single n

/-- A contract that the first account created. -/
def indexInfo (height : UInt64) : ContractInfo :=
  newContractInfo indexCodec 1 (indexAddress 1) none "label" ⟨height, 0⟩

/-- A store of version 1 with two contracts; the one with the smaller address came later. -/
def versionOne : WasmStore :=
  (WasmStore.empty.storeContractInfo (indexAddress 7) (indexInfo 20)).storeContractInfo
    (indexAddress 8) (indexInfo 10)

theorem creator_index_built_two :
    (∃ s', migrate1to2 indexCodec versionOne = .ok s' ∧
      BuildsCreatorIndex indexCodec versionOne s') ∧
      (migrate1to2 indexCodec versionOne).toOption.map (·.contractsByCreator (indexAddress 1)) =
        some [[8], [7]] := by
  refine ⟨creator_index_built indexCodec versionOne rfl fun a info hinfo => ?_, by decide +kernel⟩
  have hcreator : info.creator = indexCodec.string (indexAddress 1) := by
    by_cases h8 : a = indexAddress 8
    · rw [h8, versionOne, WasmStore.getContractInfo_storeContractInfo_self] at hinfo
      cases hinfo
      rfl
    · rw [versionOne, WasmStore.getContractInfo_storeContractInfo_of_ne _ _ h8] at hinfo
      by_cases h7 : a = indexAddress 7
      · rw [h7, WasmStore.getContractInfo_storeContractInfo_self] at hinfo
        cases hinfo
        rfl
      · rw [WasmStore.getContractInfo_storeContractInfo_of_ne _ _ h7] at hinfo
        cases (show (none : Option ContractInfo) = some info from hinfo)
  exact ⟨indexAddress 1, hcreator ▸ indexCodec.decode_string (indexAddress 1)⟩

end Wasmd
