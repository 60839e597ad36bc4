import Wasmd.Types.Basic
import Mathlib.Tactic

/-!
# Access types and access configurations

Who may upload or instantiate code: `AccessType` and `AccessConfig` of
`x/wasm/types/types.go` and `params.go`.

* `AccessType.withAddrs_singleton_ok_iff` — the chain default applied to an account.
* `AccessConfig.isSubset_with_iff_permission` — the two comparisons of the source, of
  whole configurations and of permission kinds, agree up to the addresses listed.
* `AccessConfig.allowed_of_isSubset` — a subset allows no account the larger
  configuration does not allow.
-/

namespace Wasmd

open Effects

/-- `types.AccessType`.  On the wire it is a number, so a value outside the
enumeration is possible. -/
inductive AccessType where
  | unspecified
  | nobody
  | everybody
  | anyOfAddresses
  /-- A number the enumeration does not name. -/
  | unknown (n : Nat)
  deriving DecidableEq, Repr

/-- `types.AccessConfig`. -/
structure AccessConfig where
  permission : AccessType
  addresses : List String
  deriving DecidableEq, Repr

/-- `types.AllowEverybody`. -/
def allowEverybody : AccessConfig := ⟨.everybody, []⟩
/-- `types.AllowNobody`. -/
def allowNobody : AccessConfig := ⟨.nobody, []⟩

/-- `types.MaxAddressCount`. -/
def maxAddressCount : Nat := 50

/-- The loop of `validateBech32Addresses`; `index` holds the upper-case forms seen. -/
def validateBech32From (codec : AddressCodec) : List String → List String → Except GoError Unit
  | _, [] => .ok ()
  | index, addr :: rest =>
    match codec.accAddressFromBech32 addr with
    | .error e => .error (.wrapped s!"address: {addr}" (.foreign e))
    | .ok _ =>
      if addr.toUpper ∈ index then .error (errDuplicate.wrap "duplicate addresses")
      else validateBech32From codec (addr.toUpper :: index) rest

/-- `validateBech32Addresses`. -/
def validateBech32Addresses (codec : AddressCodec) (addresses : List String) :
    Except GoError Unit :=
  if addresses.length = 0 then .error (errEmpty.wrap "addresses")
  else if maxAddressCount < addresses.length then
    .error (errInvalidRequest.wrap s!"total number of addresses is greater than {maxAddressCount}")
  else validateBech32From codec [] addresses

namespace AccessType

/-- `AccessType.IsSubset`. -/
def isSubset (a superSet : AccessType) : Bool :=
  match superSet with
  | everybody => a ≠ unspecified
  | nobody => a = nobody
  | anyOfAddresses => a = nobody ∨ a = anyOfAddresses
  | _ => false

/-- `AccessType.With`. -/
def withAddrs (codec : AddressCodec) (a : AccessType) (addrs : List AccAddress) :
    Except Panic AccessConfig :=
  match a with
  | nobody => .ok allowNobody
  | everybody => .ok allowEverybody
  | anyOfAddresses =>
    match validateBech32Addresses codec (addrs.map codec.string) with
    | .error e => .error (.message (GoError.wrapped "addresses" e).text)
    | .ok () => .ok ⟨anyOfAddresses, addrs.map codec.string⟩
  | _ => .error (.message "unsupported access type")

/-- `AccessType.String`. -/
def string : AccessType → String
  | nobody => "Nobody"
  | everybody => "Everybody"
  | anyOfAddresses => "AnyOfAddresses"
  | _ => "Unspecified"

end AccessType

/-- The function `isSubset` of `types.go`: it counts the matches. -/
def isSubsetList (super sub : List String) : Bool :=
  sub.length = 0 ∨ (sub.filter fun o => o ∈ super).length = sub.length

namespace AccessConfig

/-- `AccessConfig.IsSubset`. -/
def isSubset (a superSet : AccessConfig) : Bool :=
  match superSet.permission with
  | .anyOfAddresses =>
    a.permission = .nobody ∨
      a.permission = .anyOfAddresses ∧ isSubsetList superSet.addresses a.addresses
  | .unspecified => false
  | _ => a.permission.isSubset superSet.permission

/-- `AccessConfig.Allowed`. -/
def allowed (codec : AddressCodec) (a : AccessConfig) (actor : Option AccAddress) :
    Except Panic Bool :=
  match a.permission with
  | .nobody => .ok false
  | .everybody => .ok true
  | .anyOfAddresses => .ok (codec.stringOf actor ∈ a.addresses)
  | _ => .error (.message "unknown type")

/-- `AllAuthorizedAddresses`. -/
def allAuthorizedAddresses (a : AccessConfig) : List String :=
  if a.permission = .anyOfAddresses then a.addresses else []

end AccessConfig

/-! ## Comparing configurations -/

theorem isSubsetList_iff {super sub : List String} :
    isSubsetList super sub = true ↔ ∀ o ∈ sub, o ∈ super := by
  simp only [isSubsetList, decide_eq_true_eq, List.length_filter_eq_length_iff]
  constructor
  · rintro (hnil | hall) o ho
    · rw [List.length_eq_zero_iff.mp hnil] at ho
      exact absurd ho List.not_mem_nil
    · exact hall o ho
  · intro h
    exact Or.inr h

/-- The chain default applied to one account. -/
theorem AccessType.withAddrs_singleton_ok_iff {codec : AddressCodec} {d : AccessType}
    {creator : AccAddress} {cfg : AccessConfig} :
    d.withAddrs codec [creator] = .ok cfg ↔
      (d = .nobody ∧ cfg = allowNobody) ∨ (d = .everybody ∧ cfg = allowEverybody) ∨
        (d = .anyOfAddresses ∧ cfg = ⟨.anyOfAddresses, [codec.string creator]⟩) := by
  have hvalid : validateBech32Addresses codec [codec.string creator] = .ok () := by
    simp [validateBech32Addresses, validateBech32From, codec.decode_string, maxAddressCount]
  cases d <;> simp [AccessType.withAddrs, hvalid, eq_comm]

namespace AccessConfig

/-- **The two comparisons agree up to the addresses.**  Being a subset of the chain
default applied to the creator is being of a permitted kind and, when both sides list
addresses, listing no one but the creator. -/
theorem isSubset_with_iff_permission {codec : AddressCodec} {d : AccessType}
    {creator : AccAddress} {cfg : AccessConfig} (h : d.withAddrs codec [creator] = .ok cfg)
    (a : AccessConfig) :
    a.isSubset cfg = true ↔
      a.permission.isSubset d = true ∧
        (d = .anyOfAddresses → a.permission = .anyOfAddresses →
          ∀ o ∈ a.addresses, o = codec.string creator) := by
  rcases AccessType.withAddrs_singleton_ok_iff.mp h with ⟨rfl, rfl⟩ | ⟨rfl, rfl⟩ | ⟨rfl, rfl⟩
  · simp [isSubset, allowNobody]
  · simp [isSubset, allowEverybody]
  · have hlist : isSubsetList [codec.string creator] a.addresses = true ↔
        ∀ o ∈ a.addresses, o = codec.string creator := by
      simp [isSubsetList_iff]
    cases hp : a.permission <;> simp [isSubset, AccessType.isSubset, hp, hlist]

/-- **A subset allows no one new.** -/
theorem allowed_of_isSubset {codec : AddressCodec} {a b : AccessConfig}
    (h : a.isSubset b = true) {actor : Option AccAddress}
    (ha : a.allowed codec actor = .ok true) : b.allowed codec actor = .ok true := by
  cases hb : b.permission with
  | unspecified => simp [isSubset, hb] at h
  | unknown n => simp [isSubset, AccessType.isSubset, hb] at h
  | everybody => simp [allowed, hb]
  | nobody =>
      simp only [isSubset, hb, AccessType.isSubset, decide_eq_true_eq] at h
      simp [allowed, h] at ha
  | anyOfAddresses =>
      simp only [isSubset, hb, decide_eq_true_eq] at h
      rcases h with hn | ⟨hany, hsub⟩
      · simp [allowed, hn] at ha
      · simp only [allowed, hany, Except.ok.injEq, decide_eq_true_eq] at ha
        simp only [allowed, hb, Except.ok.injEq, decide_eq_true_eq]
        exact isSubsetList_iff.mp hsub _ ha

end AccessConfig
end Wasmd
