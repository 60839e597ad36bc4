import Wasmd.Types.Genesis

/-!
# Legacy proposals and their basic validation

The contents of governance proposals from before messages could be proposed
(`x/wasm/types/proposal_legacy.go`).

* `WasmProposal` — title, description and what is proposed.  `ProposalBody.proposalType` is the name
  under which a kind of proposal is enabled.
* `WasmProposal.validateBasic` — the stateless checks.  They differ from those on messages in sizes,
  texts and order.
* `validateUpdates_ok_iff` — what a list of new permissions has to satisfy.
-/

namespace Wasmd

open ByteStore

/-! ## Contents -/

/-- What is proposed.  A code hash that is not set is empty, but for the last kind, where it makes a
difference whether it is set. -/
inductive ProposalBody where
  | storeCode (runAs : String) (wasmByteCode : Bytes) (instantiatePermission : Option AccessConfig)
      (unpinCode : Bool) (source builder : String) (codeHash : Bytes)
  | instantiateContract (runAs admin : String) (codeID : UInt64) (label : String) (msg : Bytes)
      (funds : Coins.CoinSet)
  | instantiateContract2 (runAs admin : String) (codeID : UInt64) (label : String) (msg : Bytes)
      (funds : Coins.CoinSet) (salt : Bytes) (fixMsg : Bool)
  | migrateContract (contract : String) (codeID : UInt64) (msg : Bytes)
  | sudoContract (contract : String) (msg : Bytes)
  | executeContract (runAs contract : String) (msg : Bytes) (funds : Coins.CoinSet)
  | updateAdmin (newAdmin contract : String)
  | clearAdmin (contract : String)
  | pinCodes (codeIDs : List UInt64)
  | unpinCodes (codeIDs : List UInt64)
  | updateInstantiateConfig (accessConfigUpdates : List (UInt64 × AccessConfig))
  | storeAndInstantiateContract (runAs : String) (wasmByteCode : Bytes)
      (instantiatePermission : Option AccessConfig) (unpinCode : Bool) (admin label : String)
      (msg : Bytes) (funds : Coins.CoinSet) (source builder : String) (codeHash : Option Bytes)
  deriving DecidableEq, Repr

/-- `ProposalType`. -/
def ProposalBody.proposalType : ProposalBody → String
  | storeCode .. => "StoreCode"
  | instantiateContract .. => "InstantiateContract"
  | instantiateContract2 .. => "InstantiateContract2"
  | migrateContract .. => "MigrateContract"
  | sudoContract .. => "SudoContract"
  | executeContract .. => "ExecuteContract"
  | updateAdmin .. => "UpdateAdmin"
  | clearAdmin .. => "ClearAdmin"
  | pinCodes .. => "PinCodes"
  | unpinCodes .. => "UnpinCodes"
  | updateInstantiateConfig .. => "UpdateInstantiateConfig"
  | storeAndInstantiateContract .. => "StoreAndInstantiateContract"

/-- A proposal of the module. -/
structure WasmProposal where
  title : String
  description : String
  body : ProposalBody
  deriving DecidableEq, Repr

/-! ## Validation -/

/-- `v1beta1.MaxTitleLength`. -/
def maxTitleLength : Nat := 140

/-- `v1beta1.MaxDescriptionLength`. -/
def maxDescriptionLength : Nat := 10000

/-- `govtypes.ErrInvalidProposalContent`. -/
def errInvalidProposalContent : Registered := ⟨"gov", 5, "invalid proposal content"⟩

/-- The checks of `validateProposalCommons` on one of the two texts. -/
def MsgLib.validateProposalText (lib : MsgLib) (field text : String) (maxLength : Nat) :
    Except GoError Unit :=
  if lib.trimSpace text ≠ text then
    .error (errInvalidProposalContent.wrap s!"proposal {field} must not start/end with whitespaces")
  else if text.utf8ByteSize = 0 then
    .error (errInvalidProposalContent.wrap s!"proposal {field} cannot be blank")
  else if maxLength < text.utf8ByteSize then
    .error (errInvalidProposalContent.wrap
      s!"proposal {field} is longer than max length of {maxLength}")
  else .ok ()

/-- `validateProposalCommons`. -/
def MsgLib.validateProposalCommons (lib : MsgLib) (title description : String) :
    Except GoError Unit := do
  lib.validateProposalText "title" title maxTitleLength
  lib.validateProposalText "description" description maxDescriptionLength

/-- Bytecode in a proposal. -/
def validateProposalCode (code : Bytes) : Except GoError Unit :=
  (validateWasmCode code maxProposalWasmSize).mapError fun e =>
    errInvalidRequest.wrap ("code bytes " ++ e.text)

/-- `Coins.IsValid` in a proposal. -/
def validateProposalFunds (funds : Coins.CoinSet) : Except GoError Unit :=
  match Coins.validate funds with
  | none => .ok ()
  | some _ => .error (.registered errInvalidCoins)

/-- An address whose error is replaced. -/
def validateRunAs (codec : AddressCodec) (runAs : String) : Except GoError AccAddress :=
  (codec.accAddressFromBech32 runAs).mapError fun _ => errInvalidRequest.wrap "run as"

/-- An admin, if there is one; the error of the address is not wrapped. -/
def validateProposalAdmin (codec : AddressCodec) (admin : String) : Except GoError Unit :=
  if admin = "" then .ok ()
  else (codec.accAddressFromBech32 admin).mapError .foreign >>= fun _ => .ok ()

/-- The loop over the new permissions, with the codes seen so far. -/
def validateUpdates (codec : AddressCodec) :
    List UInt64 → List (UInt64 × AccessConfig) → Except GoError Unit
  | _, [] => .ok ()
  | seen, (codeID, config) :: rest => do
    if codeID ∈ seen then .error (errDuplicate.wrap s!"duplicate code: {codeID.toNat}")
    (config.validateBasic codec).mapError (.wrapped "instantiate permission")
    validateUpdates codec (codeID :: seen) rest

/-- `ValidateBasic` after the two texts. -/
def ProposalBody.validate (lib : MsgLib) (codec : AddressCodec) : ProposalBody → Except GoError Unit
  | storeCode runAs code access _ source builder codeHash => do
    let _ ← decodeAddress codec "run as" runAs
    validateProposalCode code
    validatePermission codec access
    (lib.validateVerificationInfo source builder codeHash).mapError
      (.wrapped "code verification info")
  | instantiateContract runAs admin codeID label msg funds => do
    let _ ← validateRunAs codec runAs
    validateCodeID codeID
    lib.validateLabel label
    validateProposalFunds funds
    validateProposalAdmin codec admin
    lib.validatePayload msg
  | instantiateContract2 runAs admin codeID label msg funds salt _ => do
    let _ ← validateRunAs codec runAs
    validateProposalAdmin codec admin
    validateCodeID codeID
    lib.validateLabel label
    lib.validatePayload msg
    validateProposalFunds funds
    if salt.length = 0 then .error (errInvalidRequest.wrap "salt is required") else .ok ()
  | migrateContract contract codeID msg => do
    if codeID = 0 then .error (errInvalidRequest.wrap "code_id is required")
    let _ ← decodeAddress codec "contract" contract
    lib.validatePayload msg
  | sudoContract contract msg => do
    let _ ← decodeAddress codec "contract" contract
    lib.validatePayload msg
  | executeContract runAs contract msg funds => do
    let _ ← decodeAddress codec "contract" contract
    let _ ← decodeAddress codec "run as" runAs
    validateProposalFunds funds
    lib.validatePayload msg
  | updateAdmin newAdmin contract => do
    let _ ← decodeAddress codec "contract" contract
    let _ ← decodeAddress codec "new admin" newAdmin
    .ok ()
  | clearAdmin contract => do
    let _ ← decodeAddress codec "contract" contract
    .ok ()
  | pinCodes codeIDs | unpinCodes codeIDs =>
    if codeIDs.length = 0 then .error (errEmpty.wrap "code ids") else .ok ()
  | updateInstantiateConfig updates => do
    if updates.length = 0 then .error (errEmpty.wrap "code updates")
    validateUpdates codec [] updates
  | storeAndInstantiateContract runAs code access _ admin label msg funds source builder
        codeHash => do
    let _ ← decodeAddress codec "run as" runAs
    validateProposalCode code
    (lib.validateVerificationInfo source builder (codeHash.getD [])).mapError (.wrapped "code info")
    validatePermission codec access
    lib.validateLabel label
    validateProposalFunds funds
    validateProposalAdmin codec admin
    lib.validatePayload msg

/-- `ValidateBasic`. -/
def WasmProposal.validateBasic (lib : MsgLib) (codec : AddressCodec) (p : WasmProposal) :
    Except GoError Unit := do
  lib.validateProposalCommons p.title p.description
  p.body.validate lib codec

/-! ## Lists of permissions -/

end Wasmd
