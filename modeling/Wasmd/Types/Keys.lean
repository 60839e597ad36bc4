import Wasmd.Types.Basic

/-!
# Store keys

The key layout of `x/wasm/types/keys.go`.  Every family starts with a byte of its own, so
keys of different families never meet; inside a family the parts are of fixed width, or
carry their length, or come last.

* `codeKey_injective`, `contractKey_injective` — one key per code and contract.
* `historyKey_inj`, `codeIndexKey_inj`, `creatorIndexKey_inj` — a key of a derived family
  determines all its parts.  For histories this needs the addresses to be followed by
  exactly eight bytes, which is why the source looks at the length of the key.
-/

namespace Wasmd

open ByteStore

/-- `types.AbsoluteTxPosition`. -/
structure AbsoluteTxPosition where
  blockHeight : UInt64
  txIndex : UInt64
  deriving DecidableEq, Repr

/-- `AbsoluteTxPosition.Bytes`. -/
def AbsoluteTxPosition.bytes (p : AbsoluteTxPosition) : Bytes :=
  uint64ToBigEndian p.blockHeight ++ uint64ToBigEndian p.txIndex

/-- `AbsoluteTxPosition.LessThan`; nil comes before everything. -/
def AbsoluteTxPosition.lessThan : Option AbsoluteTxPosition → Option AbsoluteTxPosition → Bool
  | none, _ => true
  | some _, none => false
  | some a, some b =>
    a.blockHeight < b.blockHeight ∨ a.blockHeight = b.blockHeight ∧ a.txIndex < b.txIndex

/-- `types.AbsoluteTxPositionLen`. -/
def absoluteTxPositionLen : Nat := 16

/-- `types.GetCodeKey`. -/
def codeKey (codeID : UInt64) : Bytes := 0x01 :: uint64ToBigEndian codeID

/-- `types.GetContractAddressKey`. -/
def contractAddressKey (addr : AccAddress) : Bytes := 0x02 :: addr.bytes

/-- `types.GetContractStorePrefix`. -/
def contractStorePrefix (addr : AccAddress) : Bytes := 0x03 :: addr.bytes

/-- `types.KeySequenceCodeID`: the prefix and the text `lastCodeId`. -/
def keySequenceCodeID : Bytes := 0x04 :: asciiBytes "lastCodeId"

/-- `types.KeySequenceInstanceID`: the prefix and the text `lastContractId`. -/
def keySequenceInstanceID : Bytes := 0x04 :: asciiBytes "lastContractId"

/-- `types.GetContractCodeHistoryElementPrefix`. -/
def contractCodeHistoryElementPrefix (addr : AccAddress) : Bytes := 0x05 :: addr.bytes

/-- `types.GetContractCodeHistoryElementKey`. -/
def contractCodeHistoryElementKey (addr : AccAddress) (pos : UInt64) : Bytes :=
  contractCodeHistoryElementPrefix addr ++ uint64ToBigEndian pos

/-- `types.GetContractByCodeIDSecondaryIndexPrefix`. -/
def contractByCodeIDSecondaryIndexPrefix (codeID : UInt64) : Bytes :=
  0x06 :: uint64ToBigEndian codeID

/-- `types.GetContractByCreatedSecondaryIndexKey`, of the code and position of an entry. -/
def contractByCreatedSecondaryIndexKey (addr : AccAddress) (codeID : UInt64)
    (updated : AbsoluteTxPosition) : Bytes :=
  contractByCodeIDSecondaryIndexPrefix codeID ++ updated.bytes ++ addr.bytes

/-- `types.GetPinnedCodeIndexPrefix`. -/
def pinnedCodeIndexPrefix (codeID : UInt64) : Bytes := 0x07 :: uint64ToBigEndian codeID

/-- `types.TXCounterPrefix`, the key of the transaction counter. -/
def txCounterPrefix : Bytes := [0x08]

/-- `types.GetContractsByCreatorPrefix`: the creator with its length in front. -/
def contractsByCreatorPrefix (creator : AccAddress) : Bytes :=
  0x09 :: UInt8.ofNat creator.bytes.length :: creator.bytes

/-- `types.GetContractByCreatorSecondaryIndexKey`. -/
def contractByCreatorSecondaryIndexKey (creator : AccAddress) (position : AbsoluteTxPosition)
    (addr : AccAddress) : Bytes :=
  contractsByCreatorPrefix creator ++ position.bytes ++ addr.bytes

/-- `types.ParamsKey`. -/
def paramsKey : Bytes := [0x10]

/-- The bytes of a Go string. -/
def stringBytes (s : String) : Bytes := s.toUTF8.toList

/-- `types.GetAsyncPacketKey`: the channel with its length in front, and the sequence. -/
def asyncPacketKey (destChannel : String) (sequence : UInt64) : Bytes :=
  bigEndian 4 (stringBytes destChannel).length ++ stringBytes destChannel ++
    uint64ToBigEndian sequence

/-- `types.GetAsyncAckStorePrefix`. -/
def asyncAckStorePrefix (portID : String) : Bytes := 0x11 :: stringBytes portID

/-! ## Keys determine their parts -/

theorem stringBytes_injective : Function.Injective stringBytes := by
  intro s t h
  exact String.toByteArray_inj.mp (toList_injective h)

@[simp] theorem AbsoluteTxPosition.length_bytes (p : AbsoluteTxPosition) :
    p.bytes.length = absoluteTxPositionLen := by
  simp [AbsoluteTxPosition.bytes, absoluteTxPositionLen]

theorem AbsoluteTxPosition.bytes_injective : Function.Injective AbsoluteTxPosition.bytes := by
  rintro ⟨h, i⟩ ⟨h', i'⟩ heq
  obtain ⟨hh, hi⟩ := List.append_inj heq (by simp)
  obtain rfl : h = h' := uint64ToBigEndian_injective hh
  obtain rfl : i = i' := uint64ToBigEndian_injective hi
  rfl

theorem AbsoluteTxPosition.lessThan_some_iff {p q : AbsoluteTxPosition} :
    lessThan (some p) (some q) = true ↔
      p.blockHeight < q.blockHeight ∨ p.blockHeight = q.blockHeight ∧ p.txIndex < q.txIndex :=
  decide_eq_true_iff

/-- **Byte order is the order of positions**: the height decides, and then the index. -/
theorem AbsoluteTxPosition.compare_bytes_lt_iff {p q : AbsoluteTxPosition} :
    compare p.bytes q.bytes = .lt ↔ lessThan (some p) (some q) = true := by
  rw [lessThan_some_iff, bytes, bytes, compare_append_of_length_eq (by simp),
    compare_uint64ToBigEndian, compare_uint64ToBigEndian, Ordering.then_eq_lt, Nat.compare_eq_lt,
    Nat.compare_eq_eq, Nat.compare_eq_lt, UInt64.toNat_inj, UInt64.lt_iff_toNat_lt,
    UInt64.lt_iff_toNat_lt]

/-- Behind positions, other bytes decide between equal ones only. -/
theorem AbsoluteTxPosition.compare_bytes_append_lt_iff {p q : AbsoluteTxPosition} {u v : Bytes} :
    compare (p.bytes ++ u) (q.bytes ++ v) = .lt ↔
      lessThan (some p) (some q) = true ∨ p = q ∧ compare u v = .lt := by
  rw [compare_append_of_length_eq (by simp), Ordering.then_eq_lt, compare_bytes_lt_iff,
    Std.LawfulEqCmp.compare_eq_iff_eq, bytes_injective.eq_iff]

theorem codeKey_injective : Function.Injective codeKey := by
  intro a b h
  exact uint64ToBigEndian_injective (List.cons.inj h).2

theorem contractKey_injective : Function.Injective contractAddressKey := by
  intro a b h
  exact AccAddress.bytes_injective (List.cons.inj h).2

theorem pinnedKey_injective : Function.Injective pinnedCodeIndexPrefix := by
  intro a b h
  exact uint64ToBigEndian_injective (List.cons.inj h).2

/-- The position is the last eight bytes, so the address is what stands before them. -/
theorem historyKey_inj {a b : AccAddress} {i j : UInt64}
    (h : contractCodeHistoryElementKey a i = contractCodeHistoryElementKey b j) :
    a = b ∧ i = j := by
  obtain ⟨hpre, hpos⟩ := List.append_inj' h (by simp)
  exact ⟨AccAddress.bytes_injective (List.cons.inj hpre).2, uint64ToBigEndian_injective hpos⟩

theorem codeIndexKey_inj {a b : AccAddress} {c d : UInt64} {p q : AbsoluteTxPosition}
    (h : contractByCreatedSecondaryIndexKey a c p = contractByCreatedSecondaryIndexKey b d q) :
    c = d ∧ p = q ∧ a = b := by
  simp only [contractByCreatedSecondaryIndexKey, List.append_assoc] at h
  obtain ⟨hcode, hrest⟩ := List.append_inj h (by simp [contractByCodeIDSecondaryIndexPrefix])
  obtain ⟨hpos, haddr⟩ := List.append_inj hrest (by simp)
  exact ⟨uint64ToBigEndian_injective (List.cons.inj hcode).2,
    AbsoluteTxPosition.bytes_injective hpos, AccAddress.bytes_injective haddr⟩

theorem creatorPrefix_inj {a b : AccAddress} {u v : Bytes}
    (h : contractsByCreatorPrefix a ++ u = contractsByCreatorPrefix b ++ v) : a = b ∧ u = v := by
  simp only [contractsByCreatorPrefix, List.cons_append, List.cons.injEq, true_and] at h
  obtain ⟨hlen, hrest⟩ := h
  have hnat : a.bytes.length = b.bytes.length := by
    have ha := a.length_le
    have hb := b.length_le
    have := congrArg UInt8.toNat hlen
    simp only [UInt8.toNat_ofNat'] at this
    omega
  obtain ⟨haddr, huv⟩ := List.append_inj hrest hnat
  exact ⟨AccAddress.bytes_injective haddr, huv⟩

theorem creatorIndexKey_inj {c d a b : AccAddress} {p q : AbsoluteTxPosition}
    (h : contractByCreatorSecondaryIndexKey c p a = contractByCreatorSecondaryIndexKey d q b) :
    c = d ∧ p = q ∧ a = b := by
  simp only [contractByCreatorSecondaryIndexKey, List.append_assoc] at h
  obtain ⟨hcreator, hrest⟩ := creatorPrefix_inj h
  obtain ⟨hpos, haddr⟩ := List.append_inj hrest (by simp)
  exact ⟨hcreator, AbsoluteTxPosition.bytes_injective hpos, AccAddress.bytes_injective haddr⟩

end Wasmd
