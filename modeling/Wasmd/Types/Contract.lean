import Wasmd.Types.Access
import Wasmd.Types.Keys

/-!
# Codes, contracts and their history

The records the module stores (`x/wasm/types/types.go`), and the part of the SDK context they are
made from.

* `CodeInfo`, `ContractInfo`, `ContractCodeHistoryEntry`, `Params`.
* `newContractInfo`, `ContractInfo.initialHistory`, `ContractInfo.addMigration` — a contract and
  the history entries that go with it.
* `AuthorizationPolicy` — who may do what; `SdkContext` carries the one for submessages.
-/

namespace Wasmd

open ByteStore Effects

/-! ## Authorization policies -/

/-- `types.AuthorizationPolicyAction`. -/
inductive AuthorizationPolicyAction where
  | instantiate
  | migrateContract
  /-- A number the source does not name. -/
  | unknown (n : Nat)
  deriving DecidableEq, Repr

/-- `types.ChainAccessConfigs`. -/
structure ChainAccessConfigs where
  upload : AccessConfig
  instantiate : AccessConfig

/-- The authorization policies of `authz_policy.go`. -/
inductive AuthorizationPolicy where
  /-- `DefaultAuthorizationPolicy`. -/
  | default
  /-- `GovAuthorizationPolicy`. -/
  | gov (propagate : List AuthorizationPolicyAction)
  /-- `PartialGovAuthorizationPolicy`. -/
  | partialGov (action : AuthorizationPolicyAction) (defaultPolicy : AuthorizationPolicy)
  deriving DecidableEq, Repr

namespace AuthorizationPolicy

variable (codec : AddressCodec)

/-- `CanCreateCode`. -/
def canCreateCode (chainConfigs : ChainAccessConfigs) (actor : AccAddress)
    (contractConfig : AccessConfig) : AuthorizationPolicy → Except Panic Bool
  | default => do
    let allowed ← chainConfigs.upload.allowed codec (some actor)
    return allowed && contractConfig.isSubset chainConfigs.instantiate
  | gov _ => return true
  | partialGov _ p => p.canCreateCode chainConfigs actor contractConfig

/-- `CanInstantiateContract`. -/
def canInstantiateContract (config : AccessConfig) (actor : AccAddress) :
    AuthorizationPolicy → Except Panic Bool
  | default => config.allowed codec (some actor)
  | gov _ => return true
  | partialGov action p =>
    if action = .instantiate then return true else p.canInstantiateContract config actor

/-- `CanModifyContract`. -/
def canModifyContract (admin : Option AccAddress) (actor : AccAddress) :
    AuthorizationPolicy → Bool
  | default => admin = some actor
  | gov _ => true
  | partialGov action p =>
    if action = .migrateContract then true else p.canModifyContract admin actor

/-- `CanModifyCodeAccessConfig`. -/
def canModifyCodeAccessConfig (creator actor : AccAddress) (isSubset : Bool) :
    AuthorizationPolicy → Bool
  | default => creator = actor ∧ isSubset
  | gov _ => true
  | partialGov _ p => p.canModifyCodeAccessConfig creator actor isSubset

/-- `SubMessageAuthorizationPolicy`. -/
def subMessageAuthorizationPolicy (action : AuthorizationPolicyAction) :
    AuthorizationPolicy → AuthorizationPolicy
  | default => default
  | gov propagate => if action ∈ propagate then partialGov action default else default
  | partialGov a p => partialGov a p

end AuthorizationPolicy

/-! ## The context -/

/-- The part of an SDK context that is a value: the multistore, the gas meter, the event manager
and what hangs on pointers are in the world a call runs in. -/
structure SdkContext where
  blockHeight : Int
  /-- Unix time in nanoseconds. -/
  blockTime : Int
  /-- What the block gas meter has consumed, if there is one. -/
  blockGas : Option UInt64
  /-- The execution mode is simulation. -/
  simulate : Bool
  queryStackSize : Option UInt32
  callDepth : Option UInt32
  subMsgAuthzPolicy : Option AuthorizationPolicy
  /-- `ConsensusParams().Authority`, if it is set. -/
  consensusAuthority : Option String
  deriving DecidableEq

/-- `types.WithSubMsgAuthzPolicy`. -/
def SdkContext.withSubMsgAuthzPolicy (ctx : SdkContext) (p : AuthorizationPolicy) : SdkContext :=
  { ctx with subMsgAuthzPolicy := some p }

/-- `types.NewAbsoluteTxPosition`. -/
def newAbsoluteTxPosition (ctx : SdkContext) : Except Panic AbsoluteTxPosition :=
  if ctx.blockHeight < 0 then .error (.message s!"unsupported height: {ctx.blockHeight}")
  else .ok ⟨UInt64.ofNat ctx.blockHeight.toNat, ctx.blockGas.getD 0⟩

/-- The checks of `types.NewEnv`; what it returns is the context and the address, which the VM is
given here. -/
def newEnv (ctx : SdkContext) : Except Panic Unit :=
  if ctx.blockHeight < 0 then .error (.message "Block height must never be negative")
  else if ctx.blockTime < 1 then
    .error (.message "Block (unix) time must never be empty or negative ")
  else .ok ()

/-! ## Records -/

/-- `types.Params`. -/
structure Params where
  codeUploadAccess : AccessConfig
  instantiateDefaultPermission : AccessType
  deriving DecidableEq, Repr

/-- `types.DefaultParams`. -/
def defaultParams : Params := ⟨allowEverybody, .everybody⟩

/-- `types.CodeInfo`. -/
structure CodeInfo where
  codeHash : Bytes
  creator : String
  instantiateConfig : AccessConfig
  deriving DecidableEq, Repr

/-- `types.NewCodeInfo`. -/
def newCodeInfo (codec : AddressCodec) (codeHash : Bytes) (creator : AccAddress)
    (instantiatePermission : AccessConfig) : CodeInfo :=
  ⟨codeHash, codec.string creator, instantiatePermission⟩

/-- `types.ContractInfo`. -/
structure ContractInfo where
  codeID : UInt64
  creator : String
  admin : String
  label : String
  created : AbsoluteTxPosition
  ibcPortID : String
  ibc2PortID : String
  /-- The encoded extension, if one is set. -/
  ext : Option Bytes
  deriving DecidableEq, Repr

/-- `types.ContractCodeHistoryOperationType`. -/
inductive HistoryOperation where
  | unspecified
  | init
  | migrate
  | genesis
  /-- A number the source does not name. -/
  | unknown (n : Nat)
  deriving DecidableEq, Repr

/-- `types.ContractCodeHistoryEntry`. -/
structure ContractCodeHistoryEntry where
  operation : HistoryOperation
  codeID : UInt64
  updated : AbsoluteTxPosition
  msg : Bytes
  deriving DecidableEq, Repr

/-- `types.NewContractInfo`. -/
def newContractInfo (codec : AddressCodec) (codeID : UInt64) (creator : AccAddress)
    (admin : Option AccAddress) (label : String) (createdAt : AbsoluteTxPosition) : ContractInfo :=
  ⟨codeID, codec.string creator, codec.stringOf admin, label, createdAt, "", "", none⟩

namespace ContractInfo

/-- `ContractInfo.InitialHistory`. -/
def initialHistory (c : ContractInfo) (initMsg : Bytes) : ContractCodeHistoryEntry :=
  ⟨.init, c.codeID, c.created, initMsg⟩

/-- `ContractInfo.AddMigration` at a position: the changed contract and the new entry. -/
def addMigration (c : ContractInfo) (position : AbsoluteTxPosition) (codeID : UInt64)
    (msg : Bytes) : ContractInfo × ContractCodeHistoryEntry :=
  ({ c with codeID := codeID }, ⟨.migrate, codeID, position, msg⟩)

/-- `ContractInfo.AdminAddr`. -/
def adminAddr (codec : AddressCodec) (c : ContractInfo) : Except Panic (Option AccAddress) :=
  if c.admin = "" then .ok none
  else
    match codec.accAddressFromBech32 c.admin with
    | .ok a => .ok (some a)
    | .error e => .error (.message e)

end ContractInfo

/-- `portIDPrefix`. -/
def portIDPrefix : String := "wasm."

/-- `PortIDPrefixV2`. -/
def portIDPrefixV2 : String := "wasm2"

/-- `PortIDForContract`. -/
def portIDForContract (codec : AddressCodec) (addr : AccAddress) : String :=
  portIDPrefix ++ codec.string addr

/-- `strings.TrimPrefix`. -/
def trimPrefix (s start : String) : String :=
  if start.toList.isPrefixOf s.toList then String.ofList (s.toList.drop start.toList.length) else s

/-- `PortIDForContractV2`; `hrp` is the bech32 prefix of account addresses. -/
def portIDForContractV2 (codec : AddressCodec) (hrp : String) (addr : AccAddress) : String :=
  portIDPrefixV2 ++ trimPrefix (codec.string addr) hrp

/-- What is left of a text behind its start, if it has it (`strings.HasPrefix` and a slice). -/
def afterPrefix? (s start : String) : Option String :=
  if start.toList.isPrefixOf s.toList then some (String.ofList (s.toList.drop start.toList.length))
  else none

/-- The address in a port that starts with `start`; `lead` stands for the start in the text of the
address. -/
def contractFromPort (codec : AddressCodec) (start lead portID : String) :
    Except GoError AccAddress :=
  match afterPrefix? portID start with
  | some rest => (codec.accAddressFromBech32 (lead ++ rest)).mapError .foreign
  | none => .error (errInvalid.wrap "without prefix")

/-- `ContractFromPortID`. -/
def contractFromPortID (codec : AddressCodec) (portID : String) : Except GoError AccAddress :=
  contractFromPort codec portIDPrefix "" portID

/-- `ContractFromPortID2`. -/
def contractFromPortID2 (codec : AddressCodec) (hrp : String) (portID : String) :
    Except GoError AccAddress :=
  contractFromPort codec portIDPrefixV2 hrp portID

theorem afterPrefix?_eq_some_iff {s start rest : String} :
    afterPrefix? s start = some rest ↔ s = start ++ rest := by
  unfold afterPrefix?
  constructor
  · intro h
    split at h
    · rename_i hpre
      obtain ⟨t, ht⟩ := List.isPrefixOf_iff_prefix.mp hpre
      obtain rfl := Option.some.inj h
      refine String.toList_inj.mp ?_
      rw [String.toList_append, String.toList_ofList, ← ht, List.drop_left]
    · cases h
  · rintro rfl
    rw [if_pos (List.isPrefixOf_iff_prefix.mpr (by simp)), String.toList_append, List.drop_left,
      String.ofList_toList]

theorem trimPrefix_append (start rest : String) : trimPrefix (start ++ rest) start = rest := by
  unfold trimPrefix
  rw [if_pos (List.isPrefixOf_iff_prefix.mpr (by simp)), String.toList_append, List.drop_left,
    String.ofList_toList]

theorem contractFromPort_ok_iff {codec : AddressCodec} {start lead portID : String}
    {a : AccAddress} :
    contractFromPort codec start lead portID = .ok a ↔
      ∃ rest, portID = start ++ rest ∧ codec.accAddressFromBech32 (lead ++ rest) = .ok a := by
  unfold contractFromPort
  constructor
  · intro h
    split at h
    · rename_i rest hrest
      refine ⟨rest, afterPrefix?_eq_some_iff.mp hrest, ?_⟩
      cases hd : codec.accAddressFromBech32 (lead ++ rest) with
      | ok b => simpa [hd, Except.mapError] using h
      | error e => simp [hd, Except.mapError] at h
    · cases h
  · rintro ⟨rest, hport, ha⟩
    rw [afterPrefix?_eq_some_iff.mpr hport]
    simp [ha, Except.mapError]

theorem contractFromPortID_ok_iff {codec : AddressCodec} {portID : String} {a : AccAddress} :
    contractFromPortID codec portID = .ok a ↔
      ∃ rest, portID = portIDPrefix ++ rest ∧ codec.accAddressFromBech32 rest = .ok a := by
  rw [contractFromPortID, contractFromPort_ok_iff]
  simp only [String.empty_append]

/-- The ports of IBC v1 and v2 are different. -/
theorem portIDPrefix_ne (s t : String) : portIDPrefix ++ s ≠ portIDPrefixV2 ++ t := by
  intro h
  have hlist := congrArg (fun u : String => u.toList[4]?) h
  simp [portIDPrefix, portIDPrefixV2] at hlist

end Wasmd
