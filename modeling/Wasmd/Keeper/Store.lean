import Wasmd.Keeper.State
import Wasmd.Lib.KeyedLog

/-!
# Codes, contracts, histories and indices in the store

The functions of `keeper.go` that read and write single families of the store.

* `WasmStore.historyEntries` — a history as the iterators of the source see it: the keys under the
  prefix of the address that have eight more bytes.
* `HoldsHistories s H` — the history family holds exactly the lists `H`, at the positions from one
  on.  `historyEntries_eq` reads a history back; `HoldsHistories.append` is the effect of
  `appendToContractHistory`.
* `autoIncrementID` — the next number of a sequence.
-/

namespace Wasmd

open ByteStore Effects Gas

namespace WasmStore

variable (s : WasmStore)

/-! ## Codes and contracts -/

/-- `GetCodeInfo`. -/
def getCodeInfo (codeID : UInt64) : Option CodeInfo := s.codes[codeKey codeID]?

/-- `mustStoreCodeInfo`. -/
def storeCodeInfo (codeID : UInt64) (info : CodeInfo) : WasmStore :=
  { s with codes := s.codes.insert (codeKey codeID) info }

/-- `GetContractInfo`. -/
def getContractInfo (addr : AccAddress) : Option ContractInfo :=
  s.contracts[contractAddressKey addr]?

/-- `mustStoreContractInfo`. -/
def storeContractInfo (addr : AccAddress) (info : ContractInfo) : WasmStore :=
  { s with contracts := s.contracts.insert (contractAddressKey addr) info }

/-- `Has` of the whole store. -/
def has (key : Bytes) : Bool :=
  (match key with
  | 0x01 :: _ => s.codes[key]?.isSome
  | 0x02 :: _ => s.contracts[key]?.isSome
  | 0x03 :: _ => s.contractState[key]?.isSome
  | 0x04 :: _ => s.sequences[key]?.isSome
  | 0x05 :: _ => s.history[key]?.isSome
  | 0x06 :: _ => s.codeIndex[key]?.isSome
  | 0x07 :: _ => s.pinned[key]?.isSome
  | 0x09 :: _ => s.creatorIndex[key]?.isSome
  | 0x10 :: rest => rest = [] ∧ s.params.isSome
  | 0x11 :: _ => s.asyncAcks[key]?.isSome
  | _ => false) || s.raw[key]?.isSome

/-- `HasContractInfo`. -/
def hasContractInfo (addr : AccAddress) : Bool := s.has (contractAddressKey addr)

/-- `containsCodeInfo`. -/
def containsCodeInfo (codeID : UInt64) : Bool := s.has (codeKey codeID)

/-! ## Sequences -/

/-- `PeekAutoIncrementID`. -/
def peekAutoIncrementID (sequenceKey : Bytes) : UInt64 :=
  (s.sequences[sequenceKey]?.map bigEndianToUint64).getD 1

/-- `mustAutoIncrementID`: the number and the store after it. -/
def autoIncrementID (sequenceKey : Bytes) : UInt64 × WasmStore :=
  (s.peekAutoIncrementID sequenceKey,
    { s with
      sequences :=
        s.sequences.insert sequenceKey
          (uint64ToBigEndian (s.peekAutoIncrementID sequenceKey + 1)) })

/-! ## Histories -/

/-- The history of a contract with its positions, in key order.  Other keys may start with the
prefix too when addresses differ in length; those do not have eight more bytes. -/
def historyEntries (addr : AccAddress) : List (UInt64 × ContractCodeHistoryEntry) :=
  (KVStore.entries s.history (contractCodeHistoryElementPrefix addr)).filterMap fun kv =>
    if kv.1.length = 8 then some (bigEndianToUint64 kv.1, kv.2) else none

/-- `GetContractHistory`. -/
def getContractHistory (addr : AccAddress) : List ContractCodeHistoryEntry :=
  (s.historyEntries addr).map Prod.snd

/-- The position `appendToContractHistory` starts after: that of the last entry, or zero. -/
def lastHistoryPosition (addr : AccAddress) : UInt64 :=
  ((s.historyEntries addr).getLast?.map Prod.fst).getD 0

/-- The last entry, which `mustGetLastContractHistoryEntry` returns or panics. -/
def lastContractHistoryEntry (addr : AccAddress) : Option ContractCodeHistoryEntry :=
  (s.historyEntries addr).getLast?.map Prod.snd

/-- The loop of `appendToContractHistory`. -/
def appendHistoryFrom (addr : AccAddress) :
    UInt64 → List ContractCodeHistoryEntry → WasmStore → WasmStore
  | _, [], s => s
  | pos, e :: rest, s =>
    appendHistoryFrom addr (pos + 1) rest
      { s with history := s.history.insert (contractCodeHistoryElementKey addr (pos + 1)) e }

/-- `appendToContractHistory`. -/
def appendToContractHistory (addr : AccAddress) (newEntries : List ContractCodeHistoryEntry) :
    WasmStore :=
  appendHistoryFrom addr (s.lastHistoryPosition addr) newEntries s

/-! ## Indices -/

/-- `addToContractCodeSecondaryIndex`. -/
def addToContractCodeSecondaryIndex (addr : AccAddress) (entry : ContractCodeHistoryEntry) :
    WasmStore :=
  { s with
    codeIndex :=
      s.codeIndex.insert (contractByCreatedSecondaryIndexKey addr entry.codeID entry.updated) () }

/-- `removeFromContractCodeSecondaryIndex`. -/
def removeFromContractCodeSecondaryIndex (addr : AccAddress) (entry : ContractCodeHistoryEntry) :
    WasmStore :=
  { s with
    codeIndex :=
      s.codeIndex.erase (contractByCreatedSecondaryIndexKey addr entry.codeID entry.updated) }

/-- `addToContractCreatorSecondaryIndex`. -/
def addToContractCreatorSecondaryIndex (creator : AccAddress) (position : AbsoluteTxPosition)
    (addr : AccAddress) : WasmStore :=
  { s with
    creatorIndex :=
      s.creatorIndex.insert (contractByCreatorSecondaryIndexKey creator position addr) () }

/-- The addresses `IterateContractsByCode` passes on, as bytes. -/
def contractsByCode (codeID : UInt64) : List Bytes :=
  (KVStore.entries s.codeIndex (contractByCodeIDSecondaryIndexPrefix codeID)).map fun kv =>
    kv.1.drop absoluteTxPositionLen

/-- The addresses `IterateContractsByCreator` passes on, as bytes. -/
def contractsByCreator (creator : AccAddress) : List Bytes :=
  (KVStore.entries s.creatorIndex (contractsByCreatorPrefix creator)).map fun kv =>
    kv.1.drop absoluteTxPositionLen

/-! ## Pinned codes -/

/-- `IsPinnedCode`. -/
def isPinnedCode (codeID : UInt64) : Bool := s.pinned[pinnedCodeIndexPrefix codeID]?.isSome

/-- The codes marked as pinned, as `ParsePinnedCodeIndex` reads them. -/
def pinnedCodes : List UInt64 :=
  (KVStore.entries s.pinned [0x07]).map fun kv => bigEndianToUint64 kv.1

/-! ## Packets waiting for their acknowledgement -/

/-- The key `getAsyncAckStoreAndKey` comes to. -/
def asyncAckKey (portID channelID : String) (sequence : UInt64) : Bytes :=
  asyncAckStorePrefix portID ++ asyncPacketKey channelID sequence

/-- `LoadAsyncAckPacket`. -/
def loadAsyncAckPacket (portID channelID : String) (sequence : UInt64) : Option Packet :=
  s.asyncAcks[asyncAckKey portID channelID sequence]?

/-- `StoreAsyncAckPacket`: a packet lies under its destination. -/
def storeAsyncAckPacket (packet : Packet) : WasmStore :=
  { s with
    asyncAcks := s.asyncAcks.insert
      (asyncAckKey packet.destinationPort packet.destinationChannel packet.sequence) packet }

/-- `DeleteAsyncAckPacket`. -/
def deleteAsyncAckPacket (portID channelID : String) (sequence : UInt64) : WasmStore :=
  { s with asyncAcks := s.asyncAcks.erase (asyncAckKey portID channelID sequence) }

/-! ## Lemmas on reading and writing -/

@[simp] theorem getCodeInfo_storeCodeInfo_self (codeID : UInt64) (info : CodeInfo) :
    (s.storeCodeInfo codeID info).getCodeInfo codeID = some info :=
  KVStore.getElem?_insert_self _ _ _

theorem getCodeInfo_storeCodeInfo_of_ne {codeID id : UInt64} (info : CodeInfo) (h : id ≠ codeID) :
    (s.storeCodeInfo codeID info).getCodeInfo id = s.getCodeInfo id :=
  KVStore.getElem?_insert_of_ne _ _ fun hk => h (codeKey_injective hk)

@[simp] theorem getContractInfo_storeContractInfo_self (addr : AccAddress) (info : ContractInfo) :
    (s.storeContractInfo addr info).getContractInfo addr = some info :=
  KVStore.getElem?_insert_self _ _ _

theorem getContractInfo_storeContractInfo_of_ne {addr a : AccAddress} (info : ContractInfo)
    (h : a ≠ addr) : (s.storeContractInfo addr info).getContractInfo a = s.getContractInfo a :=
  KVStore.getElem?_insert_of_ne _ _ fun hk => h (contractKey_injective hk)

theorem hasContractInfo_eq (addr : AccAddress) : s.hasContractInfo addr =
    ((s.getContractInfo addr).isSome || s.raw[contractAddressKey addr]?.isSome) := rfl

theorem getContractInfo_eq_none {s : WasmStore} {addr : AccAddress}
    (h : s.hasContractInfo addr = false) : s.getContractInfo addr = none := by
  rw [hasContractInfo_eq, Bool.or_eq_false_iff] at h
  exact Option.isNone_iff_eq_none.mp (by simpa using h.1)

theorem containsCodeInfo_eq (codeID : UInt64) : s.containsCodeInfo codeID =
    ((s.getCodeInfo codeID).isSome || s.raw[codeKey codeID]?.isSome) := rfl

/-- A history shows what is stored at the positions of the address. -/
theorem mem_historyEntries {s : WasmStore} {addr : AccAddress} {pos : UInt64}
    {e : ContractCodeHistoryEntry} :
    (pos, e) ∈ s.historyEntries addr ↔
      s.history[contractCodeHistoryElementKey addr pos]? = some e :=
  KVStore.mem_logEntries

theorem contractCodeHistoryElementPrefix_injective :
    Function.Injective contractCodeHistoryElementPrefix := by
  intro a b h
  exact AccAddress.bytes_injective (List.cons.inj h).2

/-! ## What the history family holds -/

/-- The history family holds exactly the lists `H`. -/
structure HoldsHistories (s : WasmStore) (H : AccAddress → List ContractCodeHistoryEntry) :
    Prop where
  length_lt : ∀ a, (H a).length < 2 ^ 64
  mem_iff : ∀ k e, s.history[k]? = some e ↔
    ∃ a i, k = contractCodeHistoryElementKey a (UInt64.ofNat (i + 1)) ∧ (H a)[i]? = some e

theorem history_appendHistoryFrom (addr : AccAddress) (pos : UInt64)
    (es : List ContractCodeHistoryEntry) :
    (appendHistoryFrom addr pos es s).history =
      KVStore.appendFrom (contractCodeHistoryElementPrefix addr) pos es s.history := by
  induction es generalizing s pos with
  | nil => rfl
  | cons e rest ih => exact ih _ _

namespace HoldsHistories

variable {s : WasmStore} {H : AccAddress → List ContractCodeHistoryEntry}

/-- Histories are logs behind the prefixes of their addresses. -/
theorem logs (h : HoldsHistories s H) :
    KVStore.HoldsLogs contractCodeHistoryElementPrefix s.history H :=
  ⟨h.length_lt, h.mem_iff⟩

/-- **A history is read back as it is.** -/
theorem historyEntries_eq (h : HoldsHistories s H) (a : AccAddress) :
    s.historyEntries a = KVStore.numbered (H a) :=
  h.logs.logEntries_eq contractCodeHistoryElementPrefix_injective a

theorem getContractHistory_eq (h : HoldsHistories s H) (a : AccAddress) :
    s.getContractHistory a = H a := by
  rw [getContractHistory, h.historyEntries_eq, KVStore.map_snd_numbered]

theorem lastContractHistoryEntry_eq (h : HoldsHistories s H) (a : AccAddress) :
    s.lastContractHistoryEntry a = (H a).getLast? := by
  rw [lastContractHistoryEntry, ← List.getLast?_map, ← getContractHistory,
    h.getContractHistory_eq]

theorem lastHistoryPosition_eq (h : HoldsHistories s H) (a : AccAddress) :
    s.lastHistoryPosition a = UInt64.ofNat (H a).length := by
  rw [lastHistoryPosition, h.historyEntries_eq, KVStore.getLast?_numbered]

/-- **Appending to a history** touches that history only. -/
theorem append (h : HoldsHistories s H) (a : AccAddress) (es : List ContractCodeHistoryEntry)
    (hlen : (H a).length + es.length < 2 ^ 64) :
    HoldsHistories (s.appendToContractHistory a es) (Function.update H a (H a ++ es)) := by
  have hlogs := h.logs.append contractCodeHistoryElementPrefix_injective a es hlen
  rw [← h.lastHistoryPosition_eq, ← history_appendHistoryFrom] at hlogs
  exact ⟨hlogs.length_lt, hlogs.mem_iff⟩

end HoldsHistories
end WasmStore

end Wasmd
