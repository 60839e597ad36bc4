import Wasmd.Keeper.Addresses
import Wasmd.Keeper.HandlerChain
import Wasmd.Lib.Hex

/-!
# The query for a predictable address

`BuildAddressPredictable` decodes its arguments and calls `BuildContractAddressPredictable`
(`querier.go`), which panics on arguments it does not accept.

* `buildAddressArgs`, `buildAddressPredictable` — the checks of the query, and the query.
* `build_address_no_panic_iff` — which requests do not make it panic.
* `predicted_address` — the query gives the address that `MsgInstantiateContract2` assigns.
-/

namespace Wasmd

open ByteStore Effects Gas

variable {ε C : Type}

/-! ## The query -/

/-- `types.QueryBuildAddressRequest`. -/
structure QueryBuildAddressRequest where
  codeHash : String
  creatorAddress : String
  salt : String
  /-- Nil if it is absent. -/
  initArgs : Option Bytes

/-- `status.Error(codes.InvalidArgument, …)`. -/
def invalidArgument (desc : String) : GoError :=
  .foreign ("rpc error: code = InvalidArgument desc = " ++ desc)

/-- `hex.DecodeString`, with the prefix that the query gives its error. -/
def decodeHex (name text : String) : Except GoError Bytes :=
  (Hex.decode (stringBytes text)).mapError fun e => .wrapped s!"invalid {name}" (.foreign e.text)

namespace Keeper

variable (k : Keeper ε C)

/-- The checks of `BuildAddressPredictable`, and the arguments it passes on. -/
def buildAddressArgs (req : Option QueryBuildAddressRequest) :
    Except GoError (Bytes × AccAddress × Bytes × Bytes) :=
  match req with
  | none => .error (invalidArgument "empty request")
  | some req => do
    let codeHash ← decodeHex "code hash" req.codeHash
    let creator ← (k.codec.accAddressFromBech32 req.creatorAddress).mapError fun e =>
      GoError.wrapped "invalid creator address" (.foreign e)
    let salt ← decodeHex "salt" req.salt
    if salt.length = 0 then .error (invalidArgument "empty salt")
    else
      match req.initArgs with
      | none => return (codeHash, creator, salt, [])
      | some initMsg =>
        if k.jsonValid initMsg then return (codeHash, creator, salt, initMsg)
        else .error (.registered errInvalid)

/-- `BuildAddressPredictable`. -/
def buildAddressPredictable (req : Option QueryBuildAddressRequest) :
    Except (Failure GoError) String := do
  let (codeHash, creator, salt, initMsg) ← (k.buildAddressArgs req).mapError .error
  let address ← (k.buildContractAddressPredictable codeHash creator salt initMsg).mapError .panic
  return k.codec.string address

end Keeper

section Query

variable {k : Keeper ε C} {req : QueryBuildAddressRequest} {codeHash salt initMsg : Bytes}
  {creator a : AccAddress}

/-- What the query passes on as the message. -/
def Keeper.PassesInitMsg (k : Keeper ε C) (initArgs : Option Bytes) (initMsg : Bytes) : Prop :=
  initArgs = none ∧ initMsg = [] ∨ initArgs = some initMsg ∧ k.jsonValid initMsg = true

theorem buildAddressArgs_ok_iff :
    k.buildAddressArgs (some req) = .ok (codeHash, creator, salt, initMsg) ↔
      Hex.decode (stringBytes req.codeHash) = .ok codeHash ∧
      k.codec.accAddressFromBech32 req.creatorAddress = .ok creator ∧
      Hex.decode (stringBytes req.salt) = .ok salt ∧ salt.length ≠ 0 ∧
      k.PassesInitMsg req.initArgs initMsg := by
  unfold Keeper.buildAddressArgs decodeHex
  constructor
  · intro h
    obtain ⟨codeHash', hhash, h₁⟩ := except_bind_ok_iff.mp h
    obtain ⟨creator', hcreator, h₂⟩ := except_bind_ok_iff.mp h₁
    obtain ⟨salt', hsalt, h₃⟩ := except_bind_ok_iff.mp h₂
    rw [except_mapError_ok_iff] at hhash hcreator hsalt
    split at h₃
    · cases h₃
    rename_i hlength
    split at h₃
    · rename_i hargs
      cases h₃
      exact ⟨hhash, hcreator, hsalt, hlength, .inl ⟨hargs, rfl⟩⟩
    · rename_i initMsg' hargs
      split at h₃
      · rename_i hjson
        cases h₃
        exact ⟨hhash, hcreator, hsalt, hlength, .inr ⟨hargs, hjson⟩⟩
      · cases h₃
  · rintro ⟨hhash, hcreator, hsalt, hlength, hmsg⟩
    refine except_bind_ok_iff.mpr ⟨codeHash, except_mapError_ok_iff.mpr hhash, ?_⟩
    refine except_bind_ok_iff.mpr ⟨creator, except_mapError_ok_iff.mpr hcreator, ?_⟩
    refine except_bind_ok_iff.mpr ⟨salt, except_mapError_ok_iff.mpr hsalt, ?_⟩
    rw [if_neg hlength]
    rcases hmsg with ⟨hargs, rfl⟩ | ⟨hargs, hjson⟩
    · rw [hargs]
      rfl
    · rw [hargs]
      exact if_pos hjson

theorem validateSalt_ok_iff :
    validateSalt salt = .ok () ↔ salt.length ≠ 0 ∧ salt.length ≤ maxSaltSize := by
  unfold validateSalt
  split
  · simp_all
  · split
    · rename_i hlong
      simp [Nat.not_le.mpr hlong]
    · rename_i hempty hlong
      simp [hempty, Nat.not_lt.mp hlong]

/-- `BuildContractAddressPredictable` returns for the arguments it asks for, and panics on
others. -/
theorem buildContractAddressPredictable_ok_iff :
    k.buildContractAddressPredictable codeHash creator salt initMsg = .ok a ↔
      codeHash.length = 32 ∧ (salt.length ≠ 0 ∧ salt.length ≤ maxSaltSize) ∧
      (initMsg.length = 0 ∨ k.jsonValid initMsg = true) ∧
      a = k.moduleAddress (predictableKey codeHash creator salt initMsg) := by
  rw [← validateSalt_ok_iff]
  constructor
  · intro h
    obtain ⟨haddr, hlength, hsalt⟩ := buildContractAddressPredictable_ok h
    refine ⟨hlength, hsalt, ?_, haddr⟩
    by_contra hmsg
    rw [not_or] at hmsg
    unfold Keeper.buildContractAddressPredictable at h
    rw [if_neg (not_not.mpr hlength), hsalt] at h
    simp [hmsg.1, hmsg.2] at h
  · rintro ⟨hlength, hsalt, hmsg, rfl⟩
    unfold Keeper.buildContractAddressPredictable
    rw [if_neg (not_not.mpr hlength), hsalt]
    refine if_neg ?_
    rintro ⟨hne, hinvalid⟩
    exact hmsg.elim hne hinvalid

theorem buildAddressPredictable_eq {req : Option QueryBuildAddressRequest}
    (h : k.buildAddressArgs req = .ok (codeHash, creator, salt, initMsg)) :
    k.buildAddressPredictable req =
      ((k.buildContractAddressPredictable codeHash creator salt initMsg).mapError .panic).map
        k.codec.string := by
  rw [Keeper.buildAddressPredictable, h]
  show ((k.buildContractAddressPredictable codeHash creator salt initMsg).mapError
    (Failure.panic : Panic → Failure GoError) >>= fun address => pure (k.codec.string address)) = _
  cases k.buildContractAddressPredictable codeHash creator salt initMsg <;> rfl

end Query

/-- **The query for an address panics** exactly on requests that pass its own checks with a code
hash that is not of 32 bytes or a salt of more than 64. -/
theorem build_address_no_panic_iff (k : Keeper ε C) (req : Option QueryBuildAddressRequest) :
    (∀ p, k.buildAddressPredictable req ≠ .error (.panic p)) ↔
      ∀ r codeHash creator salt initMsg, req = some r →
        Hex.decode (stringBytes r.codeHash) = .ok codeHash →
        k.codec.accAddressFromBech32 r.creatorAddress = .ok creator →
        Hex.decode (stringBytes r.salt) = .ok salt → salt.length ≠ 0 →
        k.PassesInitMsg r.initArgs initMsg → codeHash.length = 32 ∧ salt.length ≤ maxSaltSize := by
  constructor
  · rintro hno r codeHash creator salt initMsg rfl hhash hcreator hsalt hlength hmsg
    have heq := buildAddressPredictable_eq
      (buildAddressArgs_ok_iff.mpr ⟨hhash, hcreator, hsalt, hlength, hmsg⟩)
    cases hbuild : k.buildContractAddressPredictable codeHash creator salt initMsg with
    | ok a =>
        obtain ⟨h32, ⟨-, h64⟩, -⟩ := buildContractAddressPredictable_ok_iff.mp hbuild
        exact ⟨h32, h64⟩
    | error p =>
        rw [hbuild] at heq
        exact absurd heq (hno p)
  · intro hargs p hpanic
    cases hr : k.buildAddressArgs req with
    | error e =>
        rw [Keeper.buildAddressPredictable, hr] at hpanic
        cases hpanic
    | ok args =>
        obtain ⟨codeHash, creator, salt, initMsg⟩ := args
        cases req with
        | none => cases hr
        | some r =>
            obtain ⟨hhash, hcreator, hsalt, hlength, hmsg⟩ := buildAddressArgs_ok_iff.mp hr
            obtain ⟨h32, h64⟩ :=
              hargs r codeHash creator salt initMsg rfl hhash hcreator hsalt hlength hmsg
            have hvalid : initMsg.length = 0 ∨ k.jsonValid initMsg = true := by
              rcases hmsg with ⟨-, rfl⟩ | ⟨-, hjson⟩
              · exact .inl rfl
              · exact .inr hjson
            rw [buildAddressPredictable_eq hr, buildContractAddressPredictable_ok_iff.mpr
              ⟨h32, ⟨hlength, h64⟩, hvalid, rfl⟩] at hpanic
            cases hpanic

/-- A request with a code hash of one byte. -/
def shortHashRequest : QueryBuildAddressRequest :=
  ⟨"00", (plainKeeper Unit).codec.string MessageEncoders.anyContract, "01", none⟩

/-- **A code hash of one byte makes the query panic.** -/
theorem build_address_panics :
    (plainKeeper Unit).buildAddressPredictable (some shortHashRequest) =
      .error (.panic (.message "invalid checksum")) := by
  decide +kernel

/-! ## The address that is assigned -/

section Assigned

variable {k : Keeper ε C} {w w' : World (Multistore ε) Shared}

/-- The text of `hex.EncodeToString` in bytes. -/
theorem stringBytes_hexEncode (bz : Bytes) : stringBytes (hexEncode bz) = Hex.encode bz := by
  have hdigit : ∀ n < 16, String.utf8EncodeChar (Nat.digitChar n) = [Hex.digit n] := by decide
  have hbytes : ∀ l : List Char, stringBytes (String.ofList l) =
      l.flatMap String.utf8EncodeChar := by
    intro l
    show ByteArray.toList.loop (String.ofList l).toByteArray 0 [] = _
    rw [toList_loop_eq, String.toByteArray_ofList]
    simp [List.utf8Encode]
  rw [hexEncode, hbytes, List.flatMap_assoc, Hex.encode]
  refine List.flatMap_congr fun b _ => ?_
  have hb : b.toNat < 256 := b.toNat_lt
  simp [hdigit (b.toNat / 16) (by omega), hdigit (b.toNat % 16) (by omega)]

theorem attempt_run_ok {handler : Response SdkContext C → KeeperM ε (Option Bytes)}
    {x : Except GoError α} {b : α}
    (h : (attempt x : KeeperScript ε C α).run handler w = (.ok b, w')) : x = .ok b ∧ w' = w := by
  rw [attempt, Script.lift_run] at h
  exact orError_ok_iff.mp h

/-- The parts of an instantiation that succeeds. -/
theorem instantiate_assigns {handler : Response SdkContext C → KeeperM ε (Option Bytes)}
    {ctx : SdkContext} {codeID : UInt64} {creator admin : Option AccAddress} {initMsg : Bytes}
    {label : String} {deposit : Coins.CoinSet} {g : AddressGenerator} {policy : AuthorizationPolicy}
    {a : AccAddress} {data : Option Bytes}
    (h : (k.instantiate ctx codeID creator admin initMsg label deposit g policy).run handler w =
      (.ok (a, data), w')) :
    ∃ codeInfo, w.ms.wasm.getCodeInfo codeID = some codeInfo ∧
      a = k.moduleAddress (g.key w.ms.wasm.nextInstanceID codeID codeInfo.codeHash) ∧
      g.Valid codeInfo.codeHash := by
  obtain ⟨⟨a', info, res⟩, w₁, hnew, h₁⟩ := Script.run_bind_ok_iff.mp h
  obtain ⟨data', w₂, -, h₂⟩ := Script.run_bind_ok_iff.mp h₁
  obtain ⟨hout, -⟩ := GoM.pure_ok_iff.mp h₂
  obtain ⟨rfl, rfl⟩ := Prod.mk.inj hout
  have hrun : (⟨ctx, codeID, creator, admin, initMsg, label, deposit, g, policy⟩ :
      InstantiateCall).run k w = (.ok (a, info, res), w₁) :=
    (congrFun (Script.lift_run handler _) w).symm.trans hnew
  obtain ⟨codeInfo, hcode, haddr, hvalid, -⟩ := InstantiateCall.run_ok hrun
  exact ⟨codeInfo, hcode, haddr, hvalid⟩

/-- The query for an address, on arguments of an instantiation. -/
theorem buildAddress_of_valid {sender : String} {senderAddr : AccAddress}
    {codeHash salt msg : Bytes} {fixMsg : Bool}
    (hsender : k.codec.accAddressFromBech32 sender = .ok senderAddr)
    (hvalid : (AddressGenerator.predictable senderAddr salt msg fixMsg).Valid codeHash)
    (hjson : fixMsg = true → k.jsonValid msg = true) :
    k.buildAddressPredictable (some ⟨hexEncode codeHash, sender, hexEncode salt,
        if fixMsg then some msg else none⟩) =
      .ok (k.codec.string (k.moduleAddress
        (predictableKey codeHash senderAddr salt (if fixMsg then msg else [])))) := by
  obtain ⟨h32, hsalt⟩ := hvalid
  have hlength := validateSalt_ok_iff.mp hsalt
  have hmsg : k.PassesInitMsg (if fixMsg then some msg else none) (if fixMsg then msg else []) := by
    cases fixMsg with
    | false => exact .inl ⟨rfl, rfl⟩
    | true => exact .inr ⟨rfl, hjson rfl⟩
  have hhex : ∀ bz, Hex.decode (stringBytes (hexEncode bz)) = .ok bz := fun bz => by
    rw [stringBytes_hexEncode, Hex.decode_encode]
  have hargs : k.buildAddressArgs (some ⟨hexEncode codeHash, sender, hexEncode salt,
      if fixMsg then some msg else none⟩) =
        .ok (codeHash, senderAddr, salt, if fixMsg then msg else []) :=
    buildAddressArgs_ok_iff.mpr ⟨hhex codeHash, hsender, hhex salt, hlength.1, hmsg⟩
  have hpassed : (if fixMsg then msg else []).length = 0 ∨
      k.jsonValid (if fixMsg then msg else []) = true := by
    cases fixMsg with
    | false => exact .inl rfl
    | true => exact .inr (hjson rfl)
  rw [buildAddressPredictable_eq hargs,
    buildContractAddressPredictable_ok_iff.mpr ⟨h32, hlength, hpassed, rfl⟩]
  rfl

/-- The contract of the message is valid JSON. -/
theorem validateBasic_instantiate2_json {lib : MsgLib} {codec : AddressCodec}
    {sender admin : String} {codeID : UInt64} {label : String} {msg : Bytes} {funds : Coins.CoinSet}
    {salt : Bytes} {fixMsg : Bool} (h : (WasmMsg.instantiateContract2 sender admin codeID label msg
      funds salt fixMsg).validateBasic lib codec = .ok ()) : lib.jsonValid msg = true := by
  obtain ⟨_, -, h₁⟩ := except_bind_ok_iff.mp h
  obtain ⟨_, -, h₂⟩ := except_bind_ok_iff.mp h₁
  obtain ⟨_, -, h₃⟩ := except_bind_ok_iff.mp h₂
  obtain ⟨_, -, h₄⟩ := except_bind_ok_iff.mp h₃
  obtain ⟨_, -, h₅⟩ := except_bind_ok_iff.mp h₄
  obtain ⟨_, hpayload, -⟩ := except_bind_ok_iff.mp h₅
  unfold MsgLib.validatePayload at hpayload
  split at hpayload
  · assumption
  · cases hpayload

variable {handler : Response SdkContext C → KeeperM ε (Option Bytes)} {ctx : SdkContext}

/-- The query for the address of an instantiation gives that address. -/
def Predicts (k : Keeper ε C) (s : WasmStore) (sender : String) (codeID : UInt64) (salt : Bytes)
    (initArgs : Option Bytes) (address : String) : Prop :=
  ∃ codeInfo, s.getCodeInfo codeID = some codeInfo ∧
    k.buildAddressPredictable
      (some ⟨hexEncode codeInfo.codeHash, sender, hexEncode salt, initArgs⟩) =
      .ok address

theorem msgServer_predicts {lib : MsgLib} (hjson : ∀ msg, lib.jsonValid msg = k.jsonValid msg)
    {sender admin : String} {codeID : UInt64} {label : String} {initMsg : Bytes}
    {funds : Coins.CoinSet} {salt : Bytes} {fixMsg : Bool} {rsp : WasmMsgResponse}
    (h : (k.msgServer lib ctx (.instantiateContract2 sender admin codeID label initMsg funds salt
      fixMsg)).run handler w = (.ok rsp, w')) :
    ∃ address data, rsp = .contract address data ∧ Predicts k w.ms.wasm sender codeID salt
      (if fixMsg then some initMsg else none) address := by
  obtain ⟨_, w₁, hcheck, h₁⟩ := Script.run_bind_ok_iff.mp h
  obtain ⟨hvalid, rfl⟩ := attempt_run_ok hcheck
  obtain ⟨senderAddr, w₂, hdecode, h₂⟩ := Script.run_bind_ok_iff.mp h₁
  obtain ⟨hsender, rfl⟩ := attempt_run_ok hdecode
  rw [decodeAddress, except_mapError_ok_iff] at hsender
  obtain ⟨adminAddr, w₃, hadmin, h₃⟩ := Script.run_bind_ok_iff.mp h₂
  obtain ⟨-, rfl⟩ := attempt_run_ok hadmin
  obtain ⟨⟨a, data⟩, w₄, hrun, h₄⟩ := Script.run_bind_ok_iff.mp h₃
  obtain ⟨rfl, -⟩ := GoM.pure_ok_iff.mp h₄
  obtain ⟨codeInfo, hcode, rfl, hgen⟩ := instantiate_assigns hrun
  have hmsg : fixMsg = true → k.jsonValid initMsg = true := fun _ =>
    (hjson initMsg).symm.trans (validateBasic_instantiate2_json hvalid)
  exact ⟨_, data, rfl, codeInfo, hcode, buildAddress_of_valid hsender hgen hmsg⟩

/-- A message of this module that a contract sends alone. -/
theorem dispatchSdkMsgs_wasm_ok {m : Messenger ε C} {contractAddr : AccAddress} {msg : WasmMsg}
    {out : DispatchResult}
    (h : (k.dispatchSdkMsgs m ctx contractAddr [.wasm msg]).run handler w = (.ok out, w')) :
    ∃ rsp w₁ w₂, (k.msgServer m.lib ctx msg).run handler w₁ = (.ok rsp, w₂) ∧
      w₁.ms.wasm = w.ms.wasm ∧ out.data = [(m.encodeResponse msg rsp).1] := by
  obtain ⟨first, w₁, hfirst, h₁⟩ := Script.run_bind_ok_iff.mp h
  obtain ⟨rfl, -⟩ := GoM.pure_ok_iff.mp h₁
  obtain ⟨_, w₂, hvalid, h₂⟩ := Script.run_bind_ok_iff.mp hfirst
  obtain ⟨-, rfl⟩ := attempt_run_ok hvalid
  obtain ⟨_, w₃, hsigner, h₃⟩ := Script.run_bind_ok_iff.mp h₂
  obtain ⟨-, rfl⟩ := attempt_run_ok hsigner
  obtain ⟨_, w₄, hensure, h₄⟩ := Script.run_bind_ok_iff.mp h₃
  rw [Script.lift_run] at hensure
  obtain ⟨-, rfl⟩ := GoM.ensure_ok_iff.mp hensure
  obtain ⟨saved, w₅, htake, h₅⟩ := Script.run_bind_ok_iff.mp h₄
  rw [Script.lift_run] at htake
  obtain ⟨rsp, w₆, hserver, h₆⟩ := Script.run_bind_ok_iff.mp h₅
  obtain ⟨events, w₇, -, h₇⟩ := Script.run_bind_ok_iff.mp h₆
  obtain ⟨rfl, -⟩ := GoM.pure_ok_iff.mp h₇
  cases htake
  exact ⟨rsp, _, w₆, hserver, rfl, rfl⟩

/-- The message of the encoders for an instantiation by a contract. -/
def instantiate2Msg (codec : AddressCodec) (contractAddr : AccAddress)
    (msg : Wasmvm.Instantiate2Msg) (coins : Coins.CoinSet) : WasmMsg :=
  .instantiateContract2 (codec.string contractAddr) msg.admin msg.codeID msg.label msg.msg
    coins msg.salt false

theorem sdkHandler_instantiate2_ok {m : Messenger ε C} {enc : EncoderLib ε}
    {contractAddr : AccAddress} {port : String} {msg : Wasmvm.Instantiate2Msg}
    {out : DispatchResult} (h : (k.sdkHandler m enc (.defaultEncoders enc) ctx contractAddr port
      (Wasmvm.Variant.wasm { instantiate2 := some msg }).msg).run handler w = (.ok out, w')) :
    ∃ coins w₁, (k.dispatchSdkMsgs m ctx contractAddr
      [.wasm (instantiate2Msg enc.codec contractAddr msg coins)]).run handler w₁ = (.ok out, w') ∧
        w₁.ms.wasm = w.ms.wasm := by
  obtain ⟨sdkMsgs, w₁, hencode, h₁⟩ := Script.run_bind_ok_iff.mp h
  rw [Script.lift_run] at hencode
  have hencoded : (enc.encodeWasmMsg contractAddr { instantiate2 := some msg }
      ⟨w.ms.ext, w.gas, w.events, ()⟩).1 = .ok sdkMsgs := congrArg Prod.fst hencode
  obtain ⟨coins, e₁, -, h₂⟩ := GoM.bind_ok_iff.mp (Prod.ext hencoded rfl)
  obtain ⟨rfl, -⟩ := GoM.pure_ok_iff.mp h₂
  have hw₁ : w₁.ms.wasm = w.ms.wasm := (congrArg (fun r => r.2.ms.wasm) hencode).symm
  exact ⟨coins, w₁, h₁, hw₁⟩

end Assigned

/-- **The predicted address is the one that is assigned.**  If `MsgInstantiateContract2` succeeds,
the query for the checksum of the code, the sender and the salt gives the address of the contract,
with the message if `FixMsg` is set and without it otherwise.  An instantiation by a contract is one
without the message. -/
theorem predicted_address (k : Keeper ε C) (m : Messenger ε C) (enc : EncoderLib ε)
    (lib : HandlerLib ε) (handler : Response SdkContext C → KeeperM ε (Option Bytes))
    (ctx : SdkContext) (hjson : ∀ msg, m.lib.jsonValid msg = k.jsonValid msg)
    (hcodec : enc.codec = k.codec) (w w' : World (Multistore ε) Shared) :
    (∀ sender admin codeID label initMsg funds salt fixMsg rsp,
      (k.msgServer m.lib ctx (.instantiateContract2 sender admin codeID label initMsg funds salt
        fixMsg)).run handler w = (.ok rsp, w') →
      ∃ address data, rsp = .contract address data ∧
        Predicts k w.ms.wasm sender codeID salt (if fixMsg then some initMsg else none) address) ∧
    ∀ contractAddr port msg out,
      Keeper.dispatchChain (k.defaultHandlers m enc lib handler ctx contractAddr port
        { wasm := some { instantiate2 := some msg } }) w = (.ok out, w') →
      ∃ coins address data,
        out.data = [(m.encodeResponse (instantiate2Msg k.codec contractAddr msg coins)
          (.contract address data)).1] ∧
        Predicts k w.ms.wasm (k.codec.string contractAddr) msg.codeID msg.salt none address := by
  refine ⟨fun sender admin codeID label initMsg funds salt fixMsg rsp h =>
    msgServer_predicts hjson h, ?_⟩
  intro contractAddr port msg out h
  have hone : OneOf (k.defaultHandlers m enc lib handler ctx contractAddr port
      (Wasmvm.Variant.wasm { instantiate2 := some msg }).msg) _ _ _ := oneOf_encoded rfl rfl rfl
  have hrun : Keeper.dispatchChain (k.defaultHandlers m enc lib handler ctx contractAddr port
      (Wasmvm.Variant.wasm { instantiate2 := some msg }).msg) w = (.ok out, w') := h
  rw [Keeper.dispatchChain, hone.split, GoM.firstOf_single hone.pre hone.post,
    GoM.mapError_ok_iff] at hrun
  obtain ⟨coins, w₁, hdispatch, hw₁⟩ := sdkHandler_instantiate2_ok hrun
  obtain ⟨rsp, w₂, w₃, hserver, hw₂, hdata⟩ := dispatchSdkMsgs_wasm_ok hdispatch
  obtain ⟨address, data, rfl, hpredicts⟩ := msgServer_predicts hjson hserver
  rw [hw₂, hw₁, hcodec] at hpredicts
  rw [hcodec] at hdata
  exact ⟨coins, address, data, hdata, hpredicts⟩

/-! ### An instantiation with a fixed message -/

/-- A store with the code 1 under a checksum of 32 bytes. -/
def predictWorld : World (Multistore Unit) Shared :=
  plainWorld (WasmStore.empty.storeCodeInfo 1
    ⟨List.replicate 32 7, markedText ibcCreator, allowEverybody⟩) (.infinite 0)

/-- The code is instantiated, with a salt and a message that is part of the address. -/
def predictRun : KeeperM Unit WasmMsgResponse :=
  (ibcKeeper.msgServer loopMessenger.lib ibcCtx
    (.instantiateContract2 (markedText ibcCreator) "" 1 "label" [123, 125] [] [1] true)).run
      (fun _ => pure none)

theorem predictRun_ok : (predictRun predictWorld).1.toOption.isSome = true := by decide +kernel

/-- The address of the contract is the one that the query gives. -/
theorem predicted_address_fixed : ∃ rsp address data,
    predictRun predictWorld = (.ok rsp, (predictRun predictWorld).2) ∧
      rsp = .contract address data ∧
      Predicts ibcKeeper predictWorld.ms.wasm (markedText ibcCreator) 1 [1]
        (some [123, 125]) address := by
  obtain ⟨rsp, hrsp⟩ := Option.isSome_iff_exists.mp predictRun_ok
  have hrun := GoM.ok_of_toOption hrsp
  obtain ⟨address, data, heq, hpredicts⟩ := (predicted_address ibcKeeper loopMessenger
    { MessageEncoders.plainLib with codec := ibcKeeper.codec } burnLib (fun _ => pure none) ibcCtx
    (fun _ => rfl) rfl predictWorld (predictRun predictWorld).2).1
      (markedText ibcCreator) "" 1 "label"
    [123, 125] [] [1] true rsp hrun
  exact ⟨rsp, address, data, hrun, heq, hpredicts⟩

end Wasmd
