import Wasmd.Types.Messages

/-!
# The genesis state and its validation

The records of `x/wasm/types/genesis.pb.go` and the checks of `genesis.go` and `types.go` on them.
Pointers that must be set (`Created`, `Updated`) are set by the types of the records.

* `GenesisState`, with `Code`, `Contract`, `Model` and `Sequence`.
* `validateGenesis` — every part is checked, alone.
* `validateGenesis_ok_iff` and the lemmas before it — what is accepted.
-/

namespace Wasmd

open ByteStore

/-! ## Records -/

/-- `types.Code`. -/
structure Code where
  codeID : UInt64
  codeInfo : CodeInfo
  codeBytes : Bytes
  pinned : Bool
  deriving DecidableEq, Repr

/-- `types.Model`: an entry in the storage of a contract. -/
structure Model where
  key : Bytes
  value : Bytes
  deriving DecidableEq, Repr

/-- `types.Contract`. -/
structure Contract where
  contractAddress : String
  contractInfo : ContractInfo
  contractState : List Model
  contractCodeHistory : List ContractCodeHistoryEntry
  deriving DecidableEq, Repr

/-- `types.Sequence`. -/
structure Sequence where
  idKey : Bytes
  value : UInt64
  deriving DecidableEq, Repr

/-- `types.GenesisState`. -/
structure GenesisState where
  params : Params
  codes : List Code
  contracts : List Contract
  sequences : List Sequence
  deriving DecidableEq, Repr

/-! ## Validation -/

/-- `types.MaxProposalWasmSize`. -/
def maxProposalWasmSize : Nat := 3 * 1024 * 1024

/-- Every element is valid; the error says which one is not. -/
def validateEach {α : Type} (field : String) (validate : α → Except GoError Unit) (l : List α) :
    Except GoError Unit :=
  l.zipIdx.forM fun x => (validate x.1).mapError (.wrapped s!"{field}{x.2}")

/-- `CodeInfo.ValidateBasic`. -/
def CodeInfo.validateBasic (codec : AddressCodec) (c : CodeInfo) : Except GoError Unit := do
  if c.codeHash.length = 0 then .error (errEmpty.wrap "code hash")
  let _ ← decodeAddress codec "creator" c.creator
  (c.instantiateConfig.validateBasic codec).mapError (.wrapped "instantiate config")

/-- `Code.ValidateBasic`. -/
def Code.validateBasic (codec : AddressCodec) (c : Code) : Except GoError Unit := do
  if c.codeID = 0 then .error (errEmpty.wrap "code id")
  (c.codeInfo.validateBasic codec).mapError (.wrapped "code info")
  (validateWasmCode c.codeBytes maxProposalWasmSize).mapError (.wrapped "code bytes")

/-- `Model.ValidateBasic`. -/
def Model.validateBasic (m : Model) : Except GoError Unit :=
  if m.key.length = 0 then .error (errEmpty.wrap "key") else .ok ()

/-- `Sequence.ValidateBasic`. -/
def Sequence.validateBasic (s : Sequence) : Except GoError Unit :=
  if s.idKey.length = 0 then .error (errEmpty.wrap "id key") else .ok ()

namespace MsgLib

variable (lib : MsgLib) (codec : AddressCodec)

/-- `ContractCodeHistoryEntry.ValidateBasic`. -/
def validateHistoryEntry (e : ContractCodeHistoryEntry) : Except GoError Unit := do
  if e.operation ∉ [.genesis, .init, .migrate] then .error (errInvalid.wrap "operation")
  if e.codeID = 0 then .error (errEmpty.wrap "code id")
  if lib.jsonValid e.msg then .ok () else .error (.wrapped "msg" (.registered errInvalid))

/-- `ContractInfo.ValidateBasic`. -/
def validateContractInfo (c : ContractInfo) : Except GoError Unit := do
  if c.codeID = 0 then .error (errEmpty.wrap "code id")
  let _ ← decodeAddress codec "creator" c.creator
  let _ ← decodeOptional codec "admin" c.admin
  (lib.validateLabel c.label).mapError (.wrapped "label")
  match c.ext.bind lib.extensionError with
  | none => .ok ()
  | some e => .error (.wrapped "extension" e)

/-- `Contract.ValidateBasic`. -/
def validateContract (c : Contract) : Except GoError Unit := do
  let _ ← decodeAddress codec "contract address" c.contractAddress
  (lib.validateContractInfo codec c.contractInfo).mapError (.wrapped "contract info")
  validateEach "contract state " Model.validateBasic c.contractState
  if c.contractCodeHistory.length = 0 then .error (errEmpty.wrap "code history")
  validateEach "code history element " lib.validateHistoryEntry c.contractCodeHistory

/-- `ValidateGenesis`, which is `GenesisState.ValidateBasic`. -/
def validateGenesis (s : GenesisState) : Except GoError Unit := do
  (s.params.validateBasic codec).mapError (.wrapped "params")
  validateEach "code: " (·.validateBasic codec) s.codes
  validateEach "contract: " (lib.validateContract codec) s.contracts
  validateEach "sequence: " Sequence.validateBasic s.sequences

end MsgLib

/-! ## What is accepted -/

section Accepted

open Effects

theorem validateEach_ok_iff {α : Type} {field : String} {validate : α → Except GoError Unit}
    {l : List α} :
    validateEach field validate l = .ok () ↔ ∀ x ∈ l, validate x = .ok () := by
  have hall : ∀ m : List (α × Nat),
      (m.forM fun x => (validate x.1).mapError (GoError.wrapped s!"{field}{x.2}")) = Except.ok () ↔
        ∀ x ∈ m.map Prod.fst, validate x = .ok () := by
    intro m
    induction m with
    | nil => simp [pure, Except.pure]
    | cons x rest ih =>
        rw [List.forM_eq_forM, List.forM_cons, except_then_ok_iff, except_mapError_ok_iff,
          List.map_cons, List.forall_mem_cons, ← ih, List.forM_eq_forM]
  rw [validateEach, hall, List.zipIdx_map_fst]

theorem decodeOptional_ok_iff {codec : AddressCodec} {field addr : String} :
    (∃ a, decodeOptional codec field addr = .ok a) ↔
      addr = "" ∨ ∃ a, codec.accAddressFromBech32 addr = .ok a := by
  unfold decodeOptional decodeAddress
  by_cases h : addr = ""
  · simp [h]
  · cases hd : codec.accAddressFromBech32 addr <;> simp [h, Except.mapError, Except.map]

theorem CodeInfo.validateBasic_ok_iff {codec : AddressCodec} {c : CodeInfo} :
    c.validateBasic codec = .ok () ↔ c.codeHash ≠ [] ∧
      (∃ a, codec.accAddressFromBech32 c.creator = .ok a) ∧
      c.instantiateConfig.validateBasic codec = .ok () := by
  unfold CodeInfo.validateBasic
  rw [check_ok_iff, except_bind_ok_iff, List.length_eq_zero_iff]
  simp only [decodeAddress, except_mapError_ok_iff, exists_and_right, ne_eq]

theorem validateWasmCode_ok_iff {code : Bytes} {maxSize : Nat} :
    validateWasmCode code maxSize = .ok () ↔ code ≠ [] ∧ code.length ≤ maxSize := by
  unfold validateWasmCode
  split_ifs with hempty hlarge
  · simp [List.length_eq_zero_iff.mp hempty]
  · simp [hlarge]
  · simp [← List.length_eq_zero_iff, hempty, Nat.not_lt.mp hlarge]

theorem Code.validateBasic_ok_iff {codec : AddressCodec} {c : Code} :
    c.validateBasic codec = .ok () ↔ c.codeID ≠ 0 ∧ c.codeInfo.validateBasic codec = .ok () ∧
      validateWasmCode c.codeBytes maxProposalWasmSize = .ok () := by
  unfold Code.validateBasic
  rw [check_ok_iff, except_then_ok_iff, except_mapError_ok_iff, except_mapError_ok_iff]

theorem Model.validateBasic_ok_iff {m : Model} : m.validateBasic = .ok () ↔ m.key ≠ [] := by
  unfold Model.validateBasic
  cases m.key <;> simp

theorem Sequence.validateBasic_ok_iff {s : Sequence} : s.validateBasic = .ok () ↔ s.idKey ≠ [] := by
  unfold Sequence.validateBasic
  cases s.idKey <;> simp

namespace MsgLib

variable {lib : MsgLib} {codec : AddressCodec}

theorem validateHistoryEntry_ok_iff {e : ContractCodeHistoryEntry} :
    lib.validateHistoryEntry e = .ok () ↔
      e.operation ∈ [.genesis, .init, .migrate] ∧ e.codeID ≠ 0 ∧ lib.jsonValid e.msg = true := by
  unfold validateHistoryEntry
  rw [check_ok_iff, check_ok_iff, not_not]
  cases lib.jsonValid e.msg <;> simp

theorem validateContractInfo_ok_iff {c : ContractInfo} :
    lib.validateContractInfo codec c = .ok () ↔ c.codeID ≠ 0 ∧
      (∃ a, codec.accAddressFromBech32 c.creator = .ok a) ∧
      (c.admin = "" ∨ ∃ a, codec.accAddressFromBech32 c.admin = .ok a) ∧
      lib.validateLabel c.label = .ok () ∧ c.ext.bind lib.extensionError = none := by
  unfold validateContractInfo
  rw [check_ok_iff]
  simp only [except_bind_ok_iff, decodeAddress, except_mapError_ok_iff, exists_and_right,
    decodeOptional_ok_iff, exists_ok_iff, ne_eq]
  cases c.ext.bind lib.extensionError <;> simp

theorem validateContract_ok_iff {c : Contract} :
    lib.validateContract codec c = .ok () ↔
      (∃ a, codec.accAddressFromBech32 c.contractAddress = .ok a) ∧
      lib.validateContractInfo codec c.contractInfo = .ok () ∧
      (∀ m ∈ c.contractState, m.key ≠ []) ∧ c.contractCodeHistory ≠ [] ∧
      ∀ e ∈ c.contractCodeHistory, lib.validateHistoryEntry e = .ok () := by
  unfold validateContract
  simp only [except_bind_ok_iff, decodeAddress, except_mapError_ok_iff, exists_and_right,
    exists_ok_iff, check_ok_iff, validateEach_ok_iff, Model.validateBasic_ok_iff,
    List.length_eq_zero_iff, ne_eq]

theorem validateGenesis_ok_iff {g : GenesisState} :
    lib.validateGenesis codec g = .ok () ↔ g.params.validateBasic codec = .ok () ∧
      (∀ c ∈ g.codes, c.validateBasic codec = .ok ()) ∧
      (∀ c ∈ g.contracts, lib.validateContract codec c = .ok ()) ∧
      ∀ s ∈ g.sequences, s.idKey ≠ [] := by
  unfold validateGenesis
  simp only [except_then_ok_iff, except_mapError_ok_iff, validateEach_ok_iff,
    Sequence.validateBasic_ok_iff]

end MsgLib

end Accepted

end Wasmd
