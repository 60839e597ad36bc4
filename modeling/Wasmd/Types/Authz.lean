import Wasmd.Types.Basic
import Wasmd.Lib.Coins
import Wasmd.Lib.GasMeter

/-!
# Authorizations to call a contract

`ContractExecutionAuthorization` and `ContractMigrationAuthorization` of
`x/wasm/types/authz.go`: a list of grants, each with a limit that is used up and a filter on
the message.  Both kinds run the same `AcceptGrantedMessage`.

* `Limit.accept`, `Filter.accept` — the limits and filters.
* `acceptGrantedMessage` — the first grant for the contract whose limit and filter apply.
* `step`, `accepted` — an authorization used message after message.
-/

namespace Wasmd
namespace Authz

open ByteStore Effects Gas Coins

/-- What the authorizations use of the Go standard library. -/
structure GoLib where
  /-- `json.Valid`. -/
  jsonValid : Bytes → Bool
  /-- The keys of a JSON object; `none` when `json.Unmarshal` into a map fails. -/
  jsonObjectKeys : Bytes → Option (List String)
  /-- `strings.TrimSpace`. -/
  trimSpace : String → String
  /-- The verb `%q`. -/
  quote : String → String

/-! ## Messages -/

/-- `MsgExecuteContract`, `MsgMigrateContract`, or a message of another type.  A nil
payload is `none`. -/
inductive Msg where
  | execute (sender contract : String) (msg : Option Bytes) (funds : CoinSet)
  | migrate (sender contract : String) (codeID : UInt64) (msg : Option Bytes)
  | other
  deriving DecidableEq, Repr

namespace Msg

/-- `GetContract`. -/
def contract : Msg → String
  | execute _ c _ _ => c
  | migrate _ c _ _ => c
  | other => ""

/-- `GetFunds`. -/
def funds : Msg → CoinSet
  | execute _ _ _ f => f
  | migrate _ _ _ _ => []
  | other => []

/-- `GetMsg`. -/
def payload : Msg → Option Bytes
  | execute _ _ m _ => m
  | migrate _ _ _ m => m
  | other => none

end Msg

variable (lib : GoLib) (codec : AddressCodec)

/-- `RawContractMessage.ValidateBasic` of a message that is not a nil pointer. -/
def validateRaw (msg : Bytes) : Except GoError Unit :=
  if lib.jsonValid msg then .ok () else .error (.registered errInvalid)

/-- `ValidateBasic` of the two messages. -/
def Msg.validateBasic : Msg → Except GoError Unit
  | .execute sender contract msg funds => do
    let _ ← decodeAddress codec "sender" sender
    let _ ← decodeAddress codec "contract" contract
    match Coins.validate funds with
    | some e => .error (.wrapped "funds" (.foreign e))
    | none => (validateRaw lib (msg.getD [])).mapError (.wrapped "payload msg")
  | .migrate sender contract codeID msg => do
    if codeID = 0 then .error (errInvalidRequest.wrap "code id is required")
    let _ ← decodeAddress codec "sender" sender
    let _ ← decodeAddress codec "contract" contract
    (validateRaw lib (msg.getD [])).mapError (.wrapped "payload msg")
  | .other => .ok ()

/-! ## Limits -/

/-- The limits of a grant; `undefined` stands for a missing or foreign one. -/
inductive Limit where
  | undefined
  | maxCalls (remaining : UInt64)
  | maxFunds (amounts : CoinSet)
  | combined (callsRemaining : UInt64) (amounts : CoinSet)
  deriving DecidableEq, Repr

/-- `ContractAuthzLimitAcceptResult`. -/
structure LimitResult where
  accepted : Bool
  deleteLimit : Bool
  updateLimit : Option Limit
  deriving DecidableEq, Repr

namespace Limit

/-- `Accept` of the four limits, of the funds of the message. -/
def accept : Limit → CoinSet → Except (Failure GoError) LimitResult
  | undefined, _ => .error (.error (errNotFound.wrap "undefined limit"))
  | maxCalls remaining, funds =>
    if ¬ Coins.empty funds then .ok ⟨false, false, none⟩
    else if remaining = 0 then .error (.error (errUnauthorized.wrap "no calls left"))
    else if remaining = 1 then .ok ⟨true, true, none⟩
    else .ok ⟨true, false, some (maxCalls (remaining - 1))⟩
  | maxFunds amounts, funds =>
    if Coins.empty funds then .ok ⟨true, false, none⟩
    else if ¬ isAllLTE funds amounts then .ok ⟨false, false, none⟩
    else match Coins.sub amounts funds with
      | .error p => .error (.panic p)
      | .ok newAmounts =>
        if isZero newAmounts then .ok ⟨true, true, none⟩
        else .ok ⟨true, false, some (maxFunds newAmounts)⟩
  | combined callsRemaining amounts, funds =>
    if ¬ isAllLTE funds amounts then .ok ⟨false, false, none⟩
    else if callsRemaining = 0 then .error (.error (errUnauthorized.wrap "no calls left"))
    else if callsRemaining = 1 then .ok ⟨true, true, none⟩
    else match Coins.sub amounts funds with
      | .error p => .error (.panic p)
      | .ok remainingAmounts =>
        if isZero remainingAmounts then .ok ⟨true, true, none⟩
        else match newCoins remainingAmounts with
          | .error p => .error (.panic p)
          | .ok cs => .ok ⟨true, false, some (combined (callsRemaining - 1) cs)⟩

/-- `ValidateBasic` of the four limits. -/
def validateBasic : Limit → Except GoError Unit
  | undefined => .error (errInvalidType.wrap "undefined limit")
  | maxCalls remaining =>
    if remaining = 0 then .error (errEmpty.wrap "remaining calls") else .ok ()
  | maxFunds amounts =>
    match Coins.validate amounts with
    | some e => .error (.foreign e)
    | none => if isZero amounts then .error (errEmpty.wrap "amounts") else .ok ()
  | combined callsRemaining amounts =>
    if callsRemaining = 0 then .error (errEmpty.wrap "remaining calls")
    else if isZero amounts then .error (errEmpty.wrap "amounts")
    else match Coins.validate amounts with
      | some e => .error (.wrapped "amounts" (.foreign e))
      | none => .ok ()

end Limit

/-! ## Filters -/

/-- The filters of a grant; `undefined` stands for a missing or foreign one. -/
inductive Filter where
  | undefined
  | allowAllMessages
  | acceptedMessageKeys (keys : List String)
  | acceptedMessages (messages : List Bytes)
  deriving DecidableEq, Repr

/-- A computation that charges the gas meter of the context. -/
abbrev MeterM := GoM GasMeter GoError

/-- `ConsumeGas` on the meter of the context. -/
def consumeGas (amount : UInt64) (descriptor : String) : MeterM Unit := fun m =>
  match m.consumeGas amount descriptor with
  | (.ok (), m') => (.ok (), m')
  | (.error p, m') => (.error (.panic p), m')

/-- `isJSONObjectWithTopLevelKey`. -/
def isJSONObjectWithTopLevelKey (msg : Bytes) (allowedKeys : List String) :
    Except GoError Bool := do
  validateRaw lib msg
  match lib.jsonObjectKeys msg with
  | some [key] => .ok (key ∈ allowedKeys)
  | _ => .ok false

namespace Filter

/-- `Accept` of the four filters. -/
def accept : Filter → Bytes → MeterM Bool
  | undefined, _ => GoM.failWith (errNotFound.wrap "undefined filter")
  | allowAllMessages, msg =>
    match validateRaw lib msg with
    | .error e => GoM.failWith e
    | .ok () => pure true
  | acceptedMessageKeys keys, msg => do
    consumeGas (1 * UInt64.ofNat msg.length) "contract authorization"
    match isJSONObjectWithTopLevelKey lib msg keys with
    | .error e => GoM.failWith (errUnauthorized.wrap s!"not an allowed msg: {e.text}")
    | .ok ok => pure ok
  | acceptedMessages messages, msg => pure (messages.any fun v => v = msg)

/-- The loop of `AcceptedMessageKeysFilter.ValidateBasic`. -/
def validateKeys : List String → List String → Except GoError Unit
  | _, [] => .ok ()
  | idx, m :: rest =>
    if m = "" then .error (errEmpty.wrap "key")
    else if m ≠ lib.trimSpace m then
      .error (errInvalid.wrap s!"key {lib.quote m} contains whitespaces")
    else if m ∈ idx then .error (errDuplicate.wrap s!"key {lib.quote m}")
    else validateKeys (m :: idx) rest

/-- The loop of `AcceptedMessagesFilter.ValidateBasic`. -/
def validateMessages : List Bytes → List Bytes → Except GoError Unit
  | _, [] => .ok ()
  | idx, m :: rest =>
    if m.length = 0 then .error (errEmpty.wrap "message")
    else match validateRaw lib m with
      | .error e => .error e
      | .ok () =>
        if m ∈ idx then .error (errDuplicate.wrap "message") else validateMessages (m :: idx) rest

/-- `ValidateBasic` of the four filters. -/
def validateBasic : Filter → Except GoError Unit
  | undefined => .error (errInvalidType.wrap "undefined filter")
  | allowAllMessages => .ok ()
  | acceptedMessageKeys keys =>
    if keys.length = 0 then .error (errEmpty.wrap "keys") else validateKeys lib [] keys
  | acceptedMessages messages =>
    if messages.length = 0 then .error (errEmpty.wrap "messages")
    else validateMessages lib [] messages

end Filter

/-! ## Grants -/

/-- `ContractGrant`. -/
structure ContractGrant where
  contract : String
  limit : Limit
  filter : Filter
  deriving DecidableEq, Repr

/-- `ContractGrant.ValidateBasic`. -/
def ContractGrant.validateBasic (g : ContractGrant) : Except GoError Unit := do
  let _ ← decodeAddress codec "contract" g.contract
  g.limit.validateBasic.mapError (.wrapped "limit")
  (g.filter.validateBasic lib).mapError (.wrapped "filter")

/-- The loop of `validateGrants`, from position `i`. -/
def validateGrantsFrom : Nat → List ContractGrant → Except GoError Unit
  | _, [] => .ok ()
  | i, g :: rest =>
    match g.validateBasic lib codec with
    | .error e => .error (.wrapped s!"position {i}" e)
    | .ok () => validateGrantsFrom (i + 1) rest

/-- `validateGrants`. -/
def validateGrants (grants : List ContractGrant) : Except GoError Unit :=
  if grants.length = 0 then .error (errEmpty.wrap "grants")
  else validateGrantsFrom lib codec 0 grants

/-- `authztypes.AcceptResponse`, with the grants of the updated authorization. -/
structure AcceptResponse where
  accept : Bool
  delete : Bool
  updated : Option (List ContractGrant)
  deriving DecidableEq, Repr

/-- The response with the new grants, after the sanity check. -/
def respondUpdated (grants : List ContractGrant) : MeterM AcceptResponse :=
  match validateGrants lib codec grants with
  | .error e => GoM.failWith (errInvalid.wrap s!"new grant state: {e.text}")
  | .ok () => pure ⟨true, false, some grants⟩

/-- The limit state updates at the end of an iteration of `AcceptGrantedMessage`: the grant
`g` between `before` and `after` applies. -/
def updateLimits (before : List ContractGrant) (g : ContractGrant) (after : List ContractGrant)
    (result : LimitResult) : MeterM AcceptResponse :=
  if result.deleteLimit then
    if (before ++ after).length = 0 then pure ⟨true, true, none⟩
    else respondUpdated lib codec (before ++ after)
  else match result.updateLimit with
    | some l => respondUpdated lib codec (before ++ { g with limit := l } :: after)
    | none => pure ⟨true, false, none⟩

/-- The loop of `AcceptGrantedMessage`; `before` are the grants already passed over. -/
def acceptLoop (contract : String) (funds : CoinSet) (msg : Bytes) :
    List ContractGrant → List ContractGrant → MeterM AcceptResponse
  | _, [] => pure ⟨false, false, none⟩
  | before, g :: after =>
    if g.contract ≠ contract then acceptLoop contract funds msg (before ++ [g]) after
    else do
      let result ← GoM.mapError (.wrapped "limit") (GoM.ofExcept (g.limit.accept funds))
      if ¬ result.accepted then acceptLoop contract funds msg (before ++ [g]) after
      else do
        let ok ← GoM.mapError (.wrapped "filter") (g.filter.accept lib msg)
        if ¬ ok then acceptLoop contract funds msg (before ++ [g]) after
        else updateLimits lib codec before g after result

/-- Which of the two authorizations it is. -/
inductive Kind where
  | execution
  | migration
  deriving DecidableEq, Repr

/-- The type assertion at the start of `AcceptGrantedMessage`. -/
def Kind.matches : Kind → Msg → Bool
  | execution, .execute .. => true
  | migration, .migrate .. => true
  | _, _ => false

/-- `AcceptGrantedMessage`. -/
def acceptGrantedMessage (kind : Kind) (grants : List ContractGrant) (msg : Msg) :
    MeterM AcceptResponse :=
  if ¬ kind.matches msg then GoM.failWith (errInvalidType.wrap "type mismatch")
  else match msg.payload with
    | none => GoM.failWith (errInvalidType.wrap "empty message")
    | some payload =>
      match msg.validateBasic lib codec with
      | .error e => GoM.failWith e
      | .ok () => acceptLoop lib codec msg.contract msg.funds payload [] grants

/-! ## Runs -/

/-- One message: whether it was accepted, and the grants afterwards (`none` once the
authorization is deleted).  A message that is refused, fails or panics changes nothing. -/
def step (kind : Kind) (grants : List ContractGrant) (call : GasMeter × Msg) :
    Bool × Option (List ContractGrant) :=
  match (acceptGrantedMessage lib codec kind grants call.2 call.1).1 with
  | .error _ => (false, some grants)
  | .ok r =>
    if ¬ r.accept then (false, some grants)
    else if r.delete then (true, none)
    else (true, some (r.updated.getD grants))

/-- The messages accepted in a run, each call with the gas meter it finds. -/
def accepted (kind : Kind) : List ContractGrant → List (GasMeter × Msg) → List Msg
  | _, [] => []
  | grants, call :: rest =>
    match step lib codec kind grants call with
    | (true, none) => [call.2]
    | (true, some grants') => call.2 :: accepted kind grants' rest
    | (false, none) => []
    | (false, some grants') => accepted kind grants' rest

end Authz
end Wasmd
