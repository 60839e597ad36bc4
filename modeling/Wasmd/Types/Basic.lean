import Wasmd.Lib.ByteStore
import Wasmd.Lib.Effects

/-!
# Errors, addresses and events

The vocabulary every other file uses.

* `GoError` — a Go error value as a chain: a registered error, possibly wrapped
  with texts, marked deterministic, or carrying the flavour the virtual machine
  understands (`x/wasm/types/errors.go`).  `GoError.abciInfo` is
  `errorsmod.ABCIInfo` and `GoError.text` is `Error()`.
* `AccAddress` — an account address: one to 255 bytes, which is what
  `sdk.VerifyAddressFormat` accepts.  `AddressCodec` is the bech32 text form of
  addresses, of which the keeper only uses that decoding undoes encoding.
* `Event` — an event with its attributes.
-/

namespace Wasmd

open ByteStore

/-! ## Errors -/

/-- An error registered with `errorsmod.Register`. -/
structure Registered where
  codespace : String
  code : Nat
  description : String
  deriving DecidableEq, Repr

/-- A Go error value. -/
inductive GoError where
  /-- A registered error as it stands. -/
  | registered (r : Registered)
  /-- `errorsmod.Wrap`. -/
  | wrapped (msg : String) (cause : GoError)
  /-- `types.DeterministicError`. -/
  | deterministic (cause : GoError)
  /-- `types.WasmVMFlavouredError`: a registered error and the text of the
  matching error of the virtual machine. -/
  | flavoured (r : Registered) (wasmVMErr : String)
  /-- A `wasmvmtypes` system error. -/
  | system (text : String)
  /-- Any other error. -/
  | foreign (text : String)
  deriving DecidableEq, Repr

namespace GoError

/-- `Error()`. -/
def text : GoError → String
  | registered r => r.description
  | wrapped msg cause => msg ++ ": " ++ cause.text
  | deterministic cause => cause.text
  | flavoured r _ => r.description
  | system t => t
  | foreign t => t

/-- `errorsmod.ABCIInfo` with `debug` unset: codespace and code of the registered
error at the end of the chain; other errors are internal. -/
def abciInfo : GoError → String × Nat
  | registered r => (r.codespace, r.code)
  | wrapped _ cause => cause.abciInfo
  | deterministic cause => cause.abciInfo
  | flavoured r _ => (r.codespace, r.code)
  | system _ => ("undefined", 1)
  | foreign _ => ("undefined", 1)

end GoError

/-- `errorsmod.Wrap` on a registered error. -/
def Registered.wrap (r : Registered) (msg : String) : GoError := .wrapped msg (.registered r)

def errCreateFailed : Registered := ⟨"wasm", 2, "create wasm contract failed"⟩
def errAccountExists : Registered := ⟨"wasm", 3, "contract account already exists"⟩
def errInstantiateFailed : Registered := ⟨"wasm", 4, "instantiate wasm contract failed"⟩
def errExecuteFailed : Registered := ⟨"wasm", 5, "execute wasm contract failed"⟩
def errQueryFailed : Registered := ⟨"wasm", 9, "query wasm contract failed"⟩
def errMigrationFailed : Registered := ⟨"wasm", 11, "migrate wasm contract failed"⟩
def errEmpty : Registered := ⟨"wasm", 12, "empty"⟩
def errLimit : Registered := ⟨"wasm", 13, "exceeds limit"⟩
def errInvalid : Registered := ⟨"wasm", 14, "invalid"⟩
def errDuplicate : Registered := ⟨"wasm", 15, "duplicate"⟩
def errUnsupportedForContract : Registered := ⟨"wasm", 17, "unsupported for this contract"⟩
def errPinContractFailed : Registered := ⟨"wasm", 18, "pinning contract failed"⟩
def errUnknownMsg : Registered := ⟨"wasm", 20, "unknown message from the contract"⟩
def errInvalidEvent : Registered := ⟨"wasm", 21, "invalid event"⟩
def errNoSuchContract : Registered := ⟨"wasm", 22, "no such contract"⟩
def errExceedMaxQueryStackSize : Registered := ⟨"wasm", 27, "max query stack size exceeded"⟩
def errNoSuchCode : Registered := ⟨"wasm", 28, "no such code"⟩
def errVMError : Registered := ⟨"wasm", 29, "wasmvm error"⟩
def errExceedMaxCallDepth : Registered := ⟨"wasm", 30, "max call depth exceeded"⟩
def errSyncPinnedCodesFailed : Registered := ⟨"wasm", 31, "syncing pinned codes failed"⟩

/-! The errors of the SDK registry.  The registry is not part of this repository: of
the codes below only `sdk/11` is named by it (`msg_dispatcher.go`), and nothing is
proved that depends on the others. -/

/-- `sdkerrors.ErrUnauthorized`. -/
def errUnauthorized : Registered := ⟨"sdk", 4, "unauthorized"⟩
/-- `sdkerrors.ErrUnknownRequest`. -/
def errUnknownRequest : Registered := ⟨"sdk", 6, "unknown request"⟩
/-- `sdkerrors.ErrInvalidAddress`. -/
def errInvalidAddress : Registered := ⟨"sdk", 7, "invalid address"⟩
/-- `sdkerrors.ErrInvalidCoins`. -/
def errInvalidCoins : Registered := ⟨"sdk", 10, "invalid coins"⟩
/-- `sdkerrors.ErrOutOfGas`. -/
def errOutOfGas : Registered := ⟨"sdk", 11, "out of gas"⟩
/-- `sdkerrors.ErrInvalidRequest`. -/
def errInvalidRequest : Registered := ⟨"sdk", 18, "invalid request"⟩
/-- `sdkerrors.ErrInvalidType`. -/
def errInvalidType : Registered := ⟨"sdk", 29, "invalid type"⟩
/-- `sdkerrors.ErrNotFound`. -/
def errNotFound : Registered := ⟨"sdk", 38, "not found"⟩

/-- `types.ErrNoSuchContractFn(addr).Wrapf("address %s", addr)`. -/
def errNoSuchContractFn (addr : String) : GoError :=
  .wrapped s!"address {addr}" (.flavoured errNoSuchContract s!"no such contract: {addr}")

/-- `types.ErrNoSuchCodeFn(codeID).Wrapf("code id %d", codeID)`. -/
def errNoSuchCodeFn (codeID : UInt64) : GoError :=
  .wrapped s!"code id {codeID.toNat}" (.flavoured errNoSuchCode s!"no such code: {codeID.toNat}")

/-- The panic of a nil pointer. -/
def nilPointer : Effects.Panic := .message "invalid memory address or nil pointer dereference"

/-! ## Addresses -/

/-- `sdk.AccAddress`: an address that `sdk.VerifyAddressFormat` accepts. -/
structure AccAddress where
  bytes : Bytes
  nonempty : bytes ≠ []
  length_le : bytes.length ≤ 255
  deriving DecidableEq

namespace AccAddress

/-- An address of one byte. -/
def single (b : UInt8) : AccAddress := ⟨[b], List.cons_ne_nil _ _, by simp⟩

/-- An address of 20 equal bytes, which is the length for accounts. -/
def twenty (b : UInt8) : AccAddress := ⟨List.replicate 20 b, by simp, by simp⟩

/-- An address of 32 equal bytes, which is the length for contracts. -/
def thirtyTwo (b : UInt8) : AccAddress := ⟨List.replicate 32 b, by simp, by simp⟩

theorem bytes_injective : Function.Injective AccAddress.bytes := by
  rintro ⟨a, _, _⟩ ⟨b, _, _⟩ h
  cases h
  rfl

/-- The bytes as an address, if they are one. -/
def ofBytes? (bz : Bytes) : Option AccAddress :=
  if h : bz ≠ [] ∧ bz.length ≤ 255 then some ⟨bz, h.1, h.2⟩ else none

theorem ofBytes?_bytes (a : AccAddress) : ofBytes? a.bytes = some a := by
  unfold ofBytes?
  rw [dif_pos ⟨a.nonempty, a.length_le⟩]

theorem eq_bytes_of_ofBytes? {bz : Bytes} {a : AccAddress} (h : ofBytes? bz = some a) :
    bz = a.bytes := by
  unfold ofBytes? at h
  split at h
  · cases h
    rfl
  · cases h

end AccAddress

/-- The bech32 text form of addresses. -/
structure AddressCodec where
  /-- `AccAddress.String` of a non-empty address. -/
  string : AccAddress → String
  /-- `sdk.AccAddressFromBech32`, with the text of its error. -/
  accAddressFromBech32 : String → Except String AccAddress
  /-- Decoding undoes encoding. -/
  decode_string : ∀ a, accAddressFromBech32 (string a) = .ok a
  /-- The empty text is not an address. -/
  decode_empty : ∃ e, accAddressFromBech32 "" = .error e

namespace AddressCodec

variable (codec : AddressCodec)

/-- `AccAddress.String`, which is empty for a nil address. -/
def stringOf : Option AccAddress → String
  | some a => codec.string a
  | none => ""

theorem string_injective : Function.Injective codec.string := by
  intro a b h
  have ha := codec.decode_string a
  rw [h, codec.decode_string b] at ha
  exact (Except.ok.inj ha).symm

end AddressCodec

/-- An address that must decode, with the field it stands in. -/
def decodeAddress (codec : AddressCodec) (field addr : String) : Except GoError AccAddress :=
  (codec.accAddressFromBech32 addr).mapError fun e => .wrapped field (.foreign e)

/-! ### A codec given by a table

To evaluate the model on concrete addresses, the table lists their bech32 texts; every other
address is written with a mark in front that no text of the table starts with. -/

/-- The bytes as characters behind a mark. -/
def markedText (a : AccAddress) : String :=
  String.ofList ('#' :: a.bytes.map fun b => Char.ofNat b.toNat)

/-- The address behind the mark, if the text is one. -/
def ofMarkedText (s : String) : Except String AccAddress :=
  match s.toList with
  | '#' :: cs =>
    match AccAddress.ofBytes? (cs.map fun c => UInt8.ofNat c.toNat) with
    | some a => .ok a
    | none => .error "invalid address length"
  | _ => .error "decoding bech32 failed"

theorem ofMarkedText_markedText (a : AccAddress) : ofMarkedText (markedText a) = .ok a := by
  have hbytes : (a.bytes.map fun b => Char.ofNat b.toNat).map (fun c => UInt8.ofNat c.toNat)
      = a.bytes := by
    rw [List.map_map]
    refine (List.map_congr_left fun b _ => ?_).trans (List.map_id _)
    have hlt : b.toNat < 256 := b.toNat_lt
    have hvalid : b.toNat.isValidChar := Or.inl (by omega)
    have hchar : (Char.ofNat b.toNat).toNat = b.toNat := by
      unfold Char.ofNat
      rw [dif_pos hvalid]
      rfl
    simp [hchar]
  simp [ofMarkedText, markedText, hbytes, AccAddress.ofBytes?_bytes]

/-- A table of addresses and texts that can be read both ways. -/
structure AddressTable where
  rows : List (AccAddress × String)
  text_inj : ∀ e ∈ rows, ∀ e' ∈ rows, e.2 = e'.2 → e = e'
  unmarked : ∀ e ∈ rows, e.2.toList.head? ≠ some '#'
  nonempty : ∀ e ∈ rows, e.2 ≠ ""

/-- No rows: all addresses are written with the mark. -/
def AddressTable.empty : AddressTable := ⟨[], by simp, by simp, by simp⟩

/-- The codec of a table. -/
def AddressTable.codec (t : AddressTable) : AddressCodec where
  string a := ((t.rows.find? fun e => e.1 = a).map Prod.snd).getD (markedText a)
  accAddressFromBech32 s :=
    match t.rows.find? fun e => e.2 = s with
    | some e => .ok e.1
    | none => ofMarkedText s
  decode_string a := by
    cases h : t.rows.find? fun e => e.1 = a with
    | some e =>
        have hmem := List.mem_of_find?_eq_some h
        have ha : e.1 = a := by simpa using List.find?_some h
        cases h' : t.rows.find? fun e' => e'.2 = e.2 with
        | none => exact absurd (List.find?_eq_none.mp h' e hmem) (by simp)
        | some e' =>
            have heq := t.text_inj e' (List.mem_of_find?_eq_some h') e hmem
              (by simpa using List.find?_some h')
            simp [h', heq, ha]
    | none =>
        have hno : (t.rows.find? fun e => e.2 = markedText a) = none := by
          rw [List.find?_eq_none]
          intro e he htext
          refine t.unmarked e he ?_
          rw [of_decide_eq_true htext]
          simp [markedText]
        simp [hno, ofMarkedText_markedText]
  decode_empty := by
    have hno : (t.rows.find? fun e => e.2 = "") = none := by
      rw [List.find?_eq_none]
      intro e he htext
      exact t.nonempty e he (of_decide_eq_true htext)
    exact ⟨"decoding bech32 failed", by simp [hno, ofMarkedText]⟩

/-! ## Events -/

/-- An attribute of an event. -/
structure Attribute where
  key : String
  value : String
  deriving DecidableEq, Repr

/-- `sdk.Event`. -/
structure Event where
  type : String
  attributes : List Attribute
  deriving DecidableEq, Repr

/-! ## Replies -/

/-- `wasmvmtypes.MsgResponse`. -/
structure MsgResponse where
  typeURL : String
  value : Bytes
  deriving DecidableEq, Repr

/-- `wasmvmtypes.SubMsgResponse`; nil data is `none`. -/
structure SubMsgResponse where
  events : List Event
  data : Option Bytes
  msgResponses : List MsgResponse
  deriving DecidableEq, Repr

/-- `wasmvmtypes.SubMsgResult`: `Ok` is a pointer beside the text `Err`. -/
structure SubMsgResult where
  ok : Option SubMsgResponse
  err : String
  deriving DecidableEq, Repr

/-- `wasmvmtypes.Reply`. -/
structure Reply where
  id : UInt64
  result : SubMsgResult
  payload : Bytes
  deriving DecidableEq, Repr

end Wasmd
