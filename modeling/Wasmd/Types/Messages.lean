import Wasmd.Lib.Coins
import Wasmd.Types.Contract

/-!
# Messages and their basic validation

The messages of the module and the stateless checks on them (`x/wasm/types/tx.go`,
`validation.go`, `params.go`).

* `AccessConfig.validateBasic`, `Params.validateBasic` — configurations.  `validateBech32_ok_iff`
  says what a list of addresses has to satisfy.
* `WasmMsg` — the messages; `WasmMsg.validateBasic` and `WasmMsg.signer`.
-/

namespace Wasmd

open ByteStore

/-- Functions of Go's standard library and of third parties that validation calls. -/
structure MsgLib where
  /-- `json.Valid`. -/
  jsonValid : Bytes → Bool
  /-- `strings.TrimSpace`. -/
  trimSpace : String → String
  /-- `unicode.IsPrint`. -/
  isPrint : Char → Bool
  /-- `strings.EqualFold`. -/
  equalFold : String → String → Bool
  /-- The error of `url.ParseRequestURI`, if any. -/
  requestURIError : String → Option String
  /-- The error of `reference.ParseDockerRef`, if any. -/
  dockerRefError : String → Option String
  /-- The error of `ValidateBasic` of an extension, if it has that method. -/
  extensionError : Bytes → Option GoError

/-- Functions of the library at their simplest. -/
def plainLib : MsgLib :=
  ⟨fun _ => true, id, fun _ => true, fun a b => a = b, fun _ => none, fun _ => none, fun _ => none⟩

/-! ## Configurations -/

/-- `validateAccessType`. -/
def validateAccessType : AccessType → Except GoError Unit
  | .unspecified => .error (errEmpty.wrap "type")
  | .nobody | .anyOfAddresses | .everybody => .ok ()
  | a => .error (errInvalid.wrap ("unknown type: \"" ++ a.string ++ "\""))

/-- `AccessConfig.ValidateBasic`. -/
def AccessConfig.validateBasic (codec : AddressCodec) (a : AccessConfig) : Except GoError Unit :=
  match a.permission with
  | .unspecified => .error (errEmpty.wrap "type")
  | .nobody | .everybody => .ok ()
  | .anyOfAddresses =>
    (validateBech32Addresses codec a.addresses).mapError (.wrapped "addresses")
  | p => .error (errInvalid.wrap ("unknown type: \"" ++ p.string ++ "\""))

/-- `Params.ValidateBasic`. -/
def Params.validateBasic (codec : AddressCodec) (p : Params) : Except GoError Unit := do
  (validateAccessType p.instantiateDefaultPermission).mapError
    (.wrapped "instantiate default permission")
  (p.codeUploadAccess.validateBasic codec).mapError (.wrapped "upload access")

/-! ## Parts of messages -/

/-- `types.MaxLabelSize`. -/
def maxLabelSize : Nat := 128

/-- `types.MaxWasmSize`. -/
def maxWasmSize : Nat := 800 * 1024

/-- `ioutils.IsGzip`. -/
def isGzip (input : Bytes) : Bool := input.take 3 = [0x1f, 0x8b, 0x08]

/-- `types.MaxSaltSize`. -/
def maxSaltSize : Nat := 64

/-- `maxCodeIDCount`. -/
def maxCodeIDCount : Nat := 50

/-- `validateWasmCode`. -/
def validateWasmCode (s : Bytes) (maxSize : Nat) : Except GoError Unit :=
  if s.length = 0 then .error (errEmpty.wrap "is required")
  else if maxSize < s.length then
    .error (errLimit.wrap s!"cannot be longer than {maxSize} bytes")
  else .ok ()

/-- `types.ValidateSalt`. -/
def validateSalt (salt : Bytes) : Except GoError Unit :=
  if salt.length = 0 then .error (errEmpty.wrap "is required")
  else if maxSaltSize < salt.length then
    .error (errLimit.wrap s!"cannot be longer than {maxSaltSize} characters")
  else .ok ()

/-- `validateCodeIDs`. -/
def validateCodeIDs (codeIDs : List UInt64) : Except GoError Unit :=
  if codeIDs.length = 0 then .error (errInvalidRequest.wrap "empty code ids")
  else if maxCodeIDCount < codeIDs.length then
    .error (errInvalidRequest.wrap s!"total number of code ids is greater than {maxCodeIDCount}")
  else if codeIDs.Nodup then .ok ()
  else .error (errInvalidRequest.wrap "duplicate code ids")

/-- An address that may be left empty. -/
def decodeOptional (codec : AddressCodec) (field addr : String) :
    Except GoError (Option AccAddress) :=
  if addr = "" then .ok none else (decodeAddress codec field addr).map some

/-- An optional configuration. -/
def validatePermission (codec : AddressCodec) (access : Option AccessConfig) :
    Except GoError Unit :=
  match access with
  | none => .ok ()
  | some a => (a.validateBasic codec).mapError (.wrapped "instantiate permission")

/-- Bytecode in a message. -/
def validateCodeBytes (code : Bytes) : Except GoError Unit :=
  (validateWasmCode code maxWasmSize).mapError fun e =>
    errInvalidRequest.wrap ("code bytes " ++ e.text)

/-- A code id that must not be zero. -/
def validateCodeID (codeID : UInt64) : Except GoError Unit :=
  if codeID = 0 then .error (errInvalidRequest.wrap "code id is required") else .ok ()

/-- `Coins.Validate` with the field. -/
def validateFunds (funds : Coins.CoinSet) : Except GoError Unit :=
  match Coins.validate funds with
  | none => .ok ()
  | some e => .error (.wrapped "funds" (.foreign e))

namespace MsgLib

variable (lib : MsgLib)

/-- `types.ValidateLabel`. -/
def validateLabel (label : String) : Except GoError Unit :=
  if label = "" then .error (errEmpty.wrap "is required")
  else if maxLabelSize < label.utf8ByteSize then
    .error (errLimit.wrap s!"cannot be longer than {maxLabelSize} characters")
  else if label ≠ lib.trimSpace label then
    .error (errInvalid.wrap "label must not start/end with whitespaces")
  else if label.toList.all lib.isPrint then .ok ()
  else .error (errInvalid.wrap "label must have printable characters only")

/-- `RawContractMessage.ValidateBasic` with the field. -/
def validatePayload (msg : Bytes) : Except GoError Unit :=
  if lib.jsonValid msg then .ok () else .error (.wrapped "payload msg" (.registered errInvalid))

/-- `types.ValidateVerificationInfo`; a code hash that is not set is empty. -/
def validateVerificationInfo (source builder : String) (codeHash : Bytes) : Except GoError Unit :=
  if source = "" ∧ builder = "" ∧ codeHash = [] then .ok ()
  else if source = "" then .error (.foreign "source is required")
  else
    match lib.requestURIError source with
    | some e => .error (.foreign ("source: " ++ e))
    | none =>
      if builder = "" then .error (.foreign "builder is required")
      else
        match lib.dockerRefError builder with
        | some e => .error (.foreign ("builder: " ++ e))
        | none => if codeHash = [] then .error (.foreign "code hash is required") else .ok ()

end MsgLib

/-! ## Messages -/

/-- The messages of the module.  Payloads are bytes that should be JSON. -/
inductive WasmMsg where
  | storeCode (sender : String) (wasmByteCode : Bytes) (instantiatePermission : Option AccessConfig)
  | instantiateContract (sender admin : String) (codeID : UInt64) (label : String) (msg : Bytes)
      (funds : Coins.CoinSet)
  | instantiateContract2 (sender admin : String) (codeID : UInt64) (label : String) (msg : Bytes)
      (funds : Coins.CoinSet) (salt : Bytes) (fixMsg : Bool)
  | executeContract (sender contract : String) (msg : Bytes) (funds : Coins.CoinSet)
  | migrateContract (sender contract : String) (codeID : UInt64) (msg : Bytes)
  | updateAdmin (sender newAdmin contract : String)
  | clearAdmin (sender contract : String)
  | updateInstantiateConfig (sender : String) (codeID : UInt64)
      (newInstantiatePermission : Option AccessConfig)
  | updateParams (authority : String) (params : Params)
  | sudoContract (authority contract : String) (msg : Bytes)
  | pinCodes (authority : String) (codeIDs : List UInt64)
  | unpinCodes (authority : String) (codeIDs : List UInt64)
  | storeAndInstantiateContract (authority : String) (wasmByteCode : Bytes)
      (instantiatePermission : Option AccessConfig) (admin label : String) (msg : Bytes)
      (funds : Coins.CoinSet) (source builder : String) (codeHash : Bytes)
  | addCodeUploadParamsAddresses (authority : String) (addresses : List String)
  | removeCodeUploadParamsAddresses (authority : String) (addresses : List String)
  | storeAndMigrateContract (authority : String) (wasmByteCode : Bytes)
      (instantiatePermission : Option AccessConfig) (contract : String) (msg : Bytes)
  | updateContractLabel (sender newLabel contract : String)

namespace WasmMsg

/-- The name of the Go type. -/
def name : WasmMsg → String
  | storeCode .. => "MsgStoreCode"
  | instantiateContract .. => "MsgInstantiateContract"
  | instantiateContract2 .. => "MsgInstantiateContract2"
  | executeContract .. => "MsgExecuteContract"
  | migrateContract .. => "MsgMigrateContract"
  | updateAdmin .. => "MsgUpdateAdmin"
  | clearAdmin .. => "MsgClearAdmin"
  | updateInstantiateConfig .. => "MsgUpdateInstantiateConfig"
  | updateParams .. => "MsgUpdateParams"
  | sudoContract .. => "MsgSudoContract"
  | pinCodes .. => "MsgPinCodes"
  | unpinCodes .. => "MsgUnpinCodes"
  | storeAndInstantiateContract .. => "MsgStoreAndInstantiateContract"
  | addCodeUploadParamsAddresses .. => "MsgAddCodeUploadParamsAddresses"
  | removeCodeUploadParamsAddresses .. => "MsgRemoveCodeUploadParamsAddresses"
  | storeAndMigrateContract .. => "MsgStoreAndMigrateContract"
  | updateContractLabel .. => "MsgUpdateContractLabel"

/-- The field that signs: `sender` or `authority`. -/
def signer : WasmMsg → String
  | storeCode sender .. => sender
  | instantiateContract sender .. => sender
  | instantiateContract2 sender .. => sender
  | executeContract sender .. => sender
  | migrateContract sender .. => sender
  | updateAdmin sender .. => sender
  | clearAdmin sender .. => sender
  | updateInstantiateConfig sender .. => sender
  | updateParams authority .. => authority
  | sudoContract authority .. => authority
  | pinCodes authority .. => authority
  | unpinCodes authority .. => authority
  | storeAndInstantiateContract authority .. => authority
  | addCodeUploadParamsAddresses authority .. => authority
  | removeCodeUploadParamsAddresses authority .. => authority
  | storeAndMigrateContract authority .. => authority
  | updateContractLabel sender .. => sender

/-- `ValidateBasic`. -/
def validateBasic (lib : MsgLib) (codec : AddressCodec) : WasmMsg → Except GoError Unit
  | storeCode sender code access => do
    -- the error of the address is not wrapped here
    let _ ← (codec.accAddressFromBech32 sender).mapError .foreign
    validateCodeBytes code
    validatePermission codec access
  | instantiateContract sender admin codeID label msg funds => do
    let _ ← decodeAddress codec "sender" sender
    validateCodeID codeID
    (lib.validateLabel label).mapError (.wrapped "label")
    validateFunds funds
    let _ ← decodeOptional codec "admin" admin
    lib.validatePayload msg
  | instantiateContract2 sender admin codeID label msg funds salt _ => do
    let _ ← decodeAddress codec "sender" sender
    validateCodeID codeID
    (lib.validateLabel label).mapError (.wrapped "label")
    validateFunds funds
    let _ ← decodeOptional codec "admin" admin
    lib.validatePayload msg
    (validateSalt salt).mapError (.wrapped "salt")
  | executeContract sender contract msg funds => do
    let _ ← decodeAddress codec "sender" sender
    let _ ← decodeAddress codec "contract" contract
    validateFunds funds
    lib.validatePayload msg
  | migrateContract sender contract codeID msg => do
    validateCodeID codeID
    let _ ← decodeAddress codec "sender" sender
    let _ ← decodeAddress codec "contract" contract
    lib.validatePayload msg
  | updateAdmin sender newAdmin contract => do
    let _ ← decodeAddress codec "sender" sender
    let _ ← decodeAddress codec "contract" contract
    let _ ← decodeAddress codec "new admin" newAdmin
    if lib.equalFold sender newAdmin then
      .error (errInvalid.wrap "new admin is the same as the old")
    else .ok ()
  | clearAdmin sender contract => do
    let _ ← decodeAddress codec "sender" sender
    let _ ← decodeAddress codec "contract" contract
  | updateInstantiateConfig sender codeID access => do
    let _ ← decodeAddress codec "sender" sender
    validateCodeID codeID
    match access with
    | none => .error (errInvalidRequest.wrap "instantiate permission is required")
    | some _ => validatePermission codec access
  | updateParams authority params => do
    let _ ← decodeAddress codec "authority" authority
    params.validateBasic codec
  | sudoContract authority contract msg => do
    let _ ← decodeAddress codec "authority" authority
    let _ ← decodeAddress codec "contract" contract
    lib.validatePayload msg
  | pinCodes authority codeIDs => do
    let _ ← decodeAddress codec "authority" authority
    validateCodeIDs codeIDs
  | unpinCodes authority codeIDs => do
    let _ ← decodeAddress codec "authority" authority
    validateCodeIDs codeIDs
  | storeAndInstantiateContract authority code access admin label msg funds source
      builder codeHash =>
    do
    let _ ← decodeAddress codec "authority" authority
    (lib.validateLabel label).mapError (.wrapped "label")
    validateFunds funds
    let _ ← decodeOptional codec "admin" admin
    (lib.validateVerificationInfo source builder codeHash).mapError
      (.wrapped "code verification info")
    lib.validatePayload msg
    validateCodeBytes code
    validatePermission codec access
  | addCodeUploadParamsAddresses authority addresses => do
    let _ ← decodeAddress codec "authority" authority
    validateBech32Addresses codec addresses
  | removeCodeUploadParamsAddresses authority addresses => do
    let _ ← decodeAddress codec "authority" authority
    validateBech32Addresses codec addresses
  | storeAndMigrateContract authority code access contract msg => do
    let _ ← decodeAddress codec "authority" authority
    let _ ← decodeAddress codec "contract" contract
    lib.validatePayload msg
    validateCodeBytes code
    validatePermission codec access
  | updateContractLabel sender newLabel contract => do
    let _ ← decodeAddress codec "sender" sender
    (lib.validateLabel newLabel).mapError (.wrapped "label")
    let _ ← decodeAddress codec "contract" contract

end WasmMsg

/-! ## Lists of addresses -/

theorem validateBech32From_ok_iff {codec : AddressCodec} {index addresses : List String} :
    validateBech32From codec index addresses = .ok () ↔
      (∀ a ∈ addresses, (codec.accAddressFromBech32 a).toBool = true) ∧
        (addresses.map String.toUpper).Nodup ∧
        ∀ a ∈ addresses, a.toUpper ∉ index := by
  induction addresses generalizing index with
  | nil => simp [validateBech32From]
  | cons a rest ih =>
      cases hdecode : codec.accAddressFromBech32 a with
      | error e => simp [validateBech32From, hdecode, Except.toBool]
      | ok addr =>
          by_cases hseen : a.toUpper ∈ index
          · simp [validateBech32From, hdecode, hseen]
          · simp only [validateBech32From, hdecode, hseen, if_false, ih, List.mem_cons,
              List.map_cons, List.nodup_cons, List.mem_map, forall_eq_or_imp, Except.toBool,
              true_and]
            constructor
            · rintro ⟨hall, hnodup, hfresh⟩
              refine ⟨hall, ⟨?_, hnodup⟩, not_false, fun b hb hin => hfresh b hb (.inr hin)⟩
              rintro ⟨b, hb, heq⟩
              exact hfresh b hb (.inl heq)
            · rintro ⟨hall, ⟨hnew, hnodup⟩, -, hfresh⟩
              refine ⟨hall, hnodup, ?_⟩
              rintro b hb (heq | hin)
              · exact hnew ⟨b, hb, heq⟩
              · exact hfresh b hb hin

/-- What a list of addresses has to satisfy: it is not empty, has at most fifty members, all of
them are addresses, and no two are the same up to case. -/
theorem validateBech32_ok_iff {codec : AddressCodec} {addresses : List String} :
    validateBech32Addresses codec addresses = .ok () ↔
      addresses ≠ [] ∧ addresses.length ≤ maxAddressCount ∧
        (∀ a ∈ addresses, (codec.accAddressFromBech32 a).toBool = true) ∧
        (addresses.map String.toUpper).Nodup := by
  unfold validateBech32Addresses
  by_cases hempty : addresses.length = 0
  · simp [List.length_eq_zero_iff.mp hempty]
  · by_cases hlong : maxAddressCount < addresses.length
    · simp [hempty, hlong]
    · rw [if_neg hempty, if_neg hlong, validateBech32From_ok_iff]
      simp [List.length_eq_zero_iff] at hempty
      simp [hempty, Nat.le_of_not_lt hlong]

end Wasmd
