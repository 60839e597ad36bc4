import Wasmd.Keeper.Outcome

/-!
# The ceiling of the instantiate permission

Who stores a code may choose who may instantiate it, but not more than the chain's default
permission applied to the creator.  `create` compares whole configurations, `setAccessConfig` only
the kinds of permission.

* `PermissionCall` — the two calls, made under the default policy.
* `WithinCeiling` — the configuration a call stored is a subset of the chain's default for the
  creator of the code, at the time of the call.
* `create_withinCeiling`, `setAccessConfig_withinCeiling_iff` — each call.
* `permission_ceiling_iff` — whole runs.
-/

namespace Wasmd

open ByteStore Effects Gas

variable {ε C : Type} {k : Keeper ε C} {w w' : World (Multistore ε) Shared}

/-- A call that stores the instantiate permission of a code, made under the default policy. -/
inductive PermissionCall where
  | create (ctx : SdkContext) (creator : AccAddress) (wasmCode : Bytes)
      (access : Option AccessConfig)
  | setAccessConfig (codeID : UInt64) (caller : AccAddress) (config : AccessConfig)

/-- The call, with the code it stores. -/
def PermissionCall.run (k : Keeper ε C) : PermissionCall → KeeperM ε UInt64
  | create ctx creator wasmCode access => do
    let (codeID, _) ← k.create ctx (some creator) wasmCode access .default
    return codeID
  | setAccessConfig codeID caller config => do
    k.setAccessConfig codeID caller config .default
    return codeID

/-- The configuration stored for the code is within the chain default of `w`, applied to the
creator: as a configuration, and as the accounts it allows. -/
def WithinCeiling (k : Keeper ε C) (w : World (Multistore ε) Shared) (codeID : UInt64)
    (w' : World (Multistore ε) Shared) : Prop :=
  ∃ info creator params ceiling, w'.ms.wasm.getCodeInfo codeID = some info ∧
    k.codec.accAddressFromBech32 info.creator = .ok creator ∧ w.ms.wasm.params = some params ∧
    params.instantiateDefaultPermission.withAddrs k.codec [creator] = .ok ceiling ∧
    info.instantiateConfig.isSubset ceiling = true ∧
    ∀ actor, info.instantiateConfig.allowed k.codec actor = .ok true →
      ceiling.allowed k.codec actor = .ok true

/-- Under a default of `AnyOfAddresses`, an update that lists addresses lists the caller only. -/
def PermissionCall.Bounded (k : Keeper ε C) (w : World (Multistore ε) Shared) :
    PermissionCall → Prop
  | create .. => True
  | setAccessConfig _ caller config => ∀ params, w.ms.wasm.params = some params →
      params.instantiateDefaultPermission = .anyOfAddresses → config.permission = .anyOfAddresses →
        ∀ o ∈ config.addresses, o = k.codec.string caller

/-! ## Each call -/

theorem create_withinCeiling {ctx : SdkContext} {creator : AccAddress} {wasmCode : Bytes}
    {access : Option AccessConfig} {out : UInt64 × Bytes}
    (h : k.create ctx (some creator) wasmCode access .default w = (.ok out, w')) :
    WithinCeiling k w out.1 w' := by
  obtain ⟨addr, params, fallback, code, hcreator, hparams, hwith, hallowed, rfl, hstore, -, -⟩ :=
    create_ok h
  obtain rfl : creator = addr := Option.some.inj hcreator
  have hsubset : (access.getD fallback).isSubset fallback = true := by
    simp only [AuthorizationPolicy.canCreateCode] at hallowed
    cases hupload : params.codeUploadAccess.allowed k.codec (some creator) with
    | error e => simp [hupload, bind, Except.bind] at hallowed
    | ok b =>
        simp only [hupload, bind, Except.bind, pure, Except.pure, Except.ok.injEq,
          Bool.and_eq_true] at hallowed
        exact hallowed.2
  refine ⟨newCodeInfo k.codec (k.wasmVM.checksum code) creator (access.getD fallback), creator,
    params, fallback, ?_, k.codec.decode_string creator, hparams, hwith, hsubset,
    fun actor => AccessConfig.allowed_of_isSubset hsubset⟩
  rw [hstore]
  exact WasmStore.getCodeInfo_storeCodeInfo_self _ _ _

/-- **An update is within the ceiling exactly if it is bounded**: the policy compares the kinds of
permission, and the addresses are left to the caller. -/
theorem setAccessConfig_withinCeiling_iff {codeID : UInt64} {caller : AccAddress}
    {config : AccessConfig} {u : Unit}
    (h : k.setAccessConfig codeID caller config .default w = (.ok u, w')) :
    WithinCeiling k w codeID w' ↔
      (PermissionCall.setAccessConfig codeID caller config).Bounded k w := by
  obtain ⟨info, params, creator, hinfo, hparams, hdecode, hyes, hstore, -⟩ := setAccessConfig_ok h
  obtain ⟨rfl, hkind⟩ : creator = caller ∧
      config.permission.isSubset params.instantiateDefaultPermission = true := by
    simpa [AuthorizationPolicy.canModifyCodeAccessConfig] using hyes
  have hget : w'.ms.wasm.getCodeInfo codeID = some { info with instantiateConfig := config } := by
    rw [hstore]
    exact WasmStore.getCodeInfo_storeCodeInfo_self _ _ _
  constructor
  · rintro ⟨info', creator', params', ceiling, hget', hdecode', hparams', hwith, hsubset, -⟩
    obtain rfl := Option.some.inj (hget.symm.trans hget')
    obtain rfl : creator = creator' := Except.ok.inj (hdecode.symm.trans hdecode')
    intro params'' hparams'' hdefault
    obtain rfl := Option.some.inj (hparams'.symm.trans hparams'')
    exact ((AccessConfig.isSubset_with_iff_permission hwith config).mp hsubset).2 hdefault
  · intro hbounded
    have hceiling : ∃ ceiling,
        params.instantiateDefaultPermission.withAddrs k.codec [creator] = .ok ceiling := by
      simp only [AccessType.withAddrs_singleton_ok_iff]
      cases hd : params.instantiateDefaultPermission <;>
        simp [AccessType.isSubset, hd] at hkind ⊢
    obtain ⟨ceiling, hwith⟩ := hceiling
    have hsubset := (AccessConfig.isSubset_with_iff_permission hwith config).mpr
      ⟨hkind, hbounded params hparams⟩
    exact ⟨_, creator, params, ceiling, hget, hdecode, hparams, hwith, hsubset,
      fun actor => AccessConfig.allowed_of_isSubset hsubset⟩

theorem PermissionCall.withinCeiling_iff {c : PermissionCall} {codeID : UInt64}
    (h : c.run k w = (.ok codeID, w')) : WithinCeiling k w codeID w' ↔ c.Bounded k w := by
  cases c with
  | create ctx creator wasmCode access =>
      obtain ⟨out, w₁, hcreate, h₁⟩ := GoM.bind_ok_iff.mp h
      obtain ⟨rfl, rfl⟩ := GoM.pure_ok_iff.mp h₁
      exact iff_of_true (create_withinCeiling hcreate) trivial
  | setAccessConfig id caller config =>
      obtain ⟨u, w₁, hset, h₁⟩ := GoM.bind_ok_iff.mp h
      obtain ⟨rfl, rfl⟩ := GoM.pure_ok_iff.mp h₁
      exact setAccessConfig_withinCeiling_iff hset

/-! ## Runs -/

/-- A successful call, with the world before it, the code it stored and the world after it. -/
structure PermissionEntry (ε : Type) where
  before : World (Multistore ε) Shared
  call : PermissionCall
  codeID : UInt64
  after : World (Multistore ε) Shared

/-- A run with its successful calls.  A failed call is rolled back; the chain default may be changed
at any time, and gas, events and the state of other modules may be anything at each call. -/
inductive PermissionRun (k : Keeper ε C) (w : World (Multistore ε) Shared) :
    List (PermissionEntry ε) → World (Multistore ε) Shared → Prop
  | start : PermissionRun k w [] w
  | call {l w₁ c codeID w₂} : PermissionRun k w l w₁ → c.run k w₁ = (.ok codeID, w₂) →
      PermissionRun k w (l ++ [⟨w₁, c, codeID, w₂⟩]) w₂
  | failed {l w₁ c e w₂} : PermissionRun k w l w₁ → PermissionCall.run k c w₁ = (.error e, w₂) →
      PermissionRun k w l { w₂ with ms := w₁.ms }
  | params {l w₁} (params : Params) : PermissionRun k w l w₁ →
      PermissionRun k w l
        { w₁ with ms := { w₁.ms with wasm := { w₁.ms.wasm with params := some params } } }
  | around {l w₁ w₂} : PermissionRun k w l w₁ → w₂.ms.wasm = w₁.ms.wasm → PermissionRun k w l w₂

/-- Each entry of a run is a call that succeeded. -/
theorem PermissionRun.ran {l : List (PermissionEntry ε)} (h : PermissionRun k w l w') :
    ∀ e ∈ l, e.call.run k e.before = (.ok e.codeID, e.after) := by
  induction h with
  | start => simp
  | call _ hrun ih =>
      intro e he
      rcases List.mem_append.mp he with hin | hlast
      · exact ih e hin
      · obtain rfl := List.mem_singleton.mp hlast
        exact hrun
  | failed _ _ ih => exact ih
  | params _ _ ih => exact ih
  | around _ _ ih => exact ih

/-- **The ceiling over runs**: every configuration a run stored is within the chain default of its
time exactly if every update of the run was bounded. -/
theorem permission_ceiling_iff (k : Keeper ε C) (w w' : World (Multistore ε) Shared)
    (l : List (PermissionEntry ε)) (h : PermissionRun k w l w') :
    (∀ e ∈ l, WithinCeiling k e.before e.codeID e.after) ↔ ∀ e ∈ l, e.call.Bounded k e.before :=
  forall₂_congr fun e he => PermissionCall.withinCeiling_iff (h.ran e he)

/-! ### A code on a plain chain

The default is `AnyOfAddresses`; the creator stores a code and then updates its permission. -/

/-- The creator. -/
def ceilingCreator : AccAddress := .twenty 1

/-- Someone else. -/
def ceilingOther : AccAddress := .twenty 2

/-- The context of a block. -/
def ceilingCtx : SdkContext := ⟨10, 1000000000, some 0, false, none, none, none, none⟩

/-- An empty store with the default `AnyOfAddresses`. -/
def ceilingStart : World (Multistore Unit) Shared :=
  plainWorld { WasmStore.empty with params := some ⟨allowEverybody, .anyOfAddresses⟩ } (.infinite 0)

/-- The first call: the creator stores a code. -/
def ceilingCreate : PermissionCall := .create ceilingCtx ceilingCreator [0, 97, 115, 109] none

/-- The world after it. -/
def ceilingStored : World (Multistore Unit) Shared :=
  (ceilingCreate.run (plainKeeper Unit) ceilingStart).2

/-- The second call: the creator lists one account. -/
def ceilingUpdate (listed : AccAddress) : PermissionCall :=
  .setAccessConfig 1 ceilingCreator ⟨.anyOfAddresses, [(plainKeeper Unit).codec.string listed]⟩

/-- The world after both. -/
def ceilingUpdated (listed : AccAddress) : World (Multistore Unit) Shared :=
  ((ceilingUpdate listed).run (plainKeeper Unit) ceilingStored).2

theorem ceiling_run (listed : AccAddress) : PermissionRun (plainKeeper Unit) ceilingStart
    [⟨ceilingStart, ceilingCreate, 1, ceilingStored⟩,
      ⟨ceilingStored, ceilingUpdate listed, 1, ceilingUpdated listed⟩] (ceilingUpdated listed) :=
  .call (.call .start rfl) rfl

/-- The creator keeps the code to themself: both calls are within the ceiling. -/
theorem permission_ceiling_creator :
    PermissionRun (plainKeeper Unit) ceilingStart
        [⟨ceilingStart, ceilingCreate, 1, ceilingStored⟩,
          ⟨ceilingStored, ceilingUpdate ceilingCreator, 1, ceilingUpdated ceilingCreator⟩]
        (ceilingUpdated ceilingCreator) ∧
      ∀ e ∈ [(⟨ceilingStart, ceilingCreate, 1, ceilingStored⟩ : PermissionEntry Unit),
        ⟨ceilingStored, ceilingUpdate ceilingCreator, 1, ceilingUpdated ceilingCreator⟩],
        WithinCeiling (plainKeeper Unit) e.before e.codeID e.after := by
  refine ⟨ceiling_run ceilingCreator,
    (permission_ceiling_iff _ _ _ _ (ceiling_run ceilingCreator)).mpr ?_⟩
  simp only [List.mem_cons, List.not_mem_nil, or_false, forall_eq_or_imp, forall_eq]
  refine ⟨trivial, fun _ _ _ _ o ho => ?_⟩
  simpa using ho

/-- **The creator lists someone else**: the call succeeds, and what it stores is not within the
ceiling. -/
theorem permission_ceiling_exceeded :
    PermissionRun (plainKeeper Unit) ceilingStart
        [⟨ceilingStart, ceilingCreate, 1, ceilingStored⟩,
          ⟨ceilingStored, ceilingUpdate ceilingOther, 1, ceilingUpdated ceilingOther⟩]
        (ceilingUpdated ceilingOther) ∧
      ¬ WithinCeiling (plainKeeper Unit) ceilingStored 1 (ceilingUpdated ceilingOther) := by
  refine ⟨ceiling_run ceilingOther, fun hwithin => ?_⟩
  have hrun : (ceilingUpdate ceilingOther).run (plainKeeper Unit) ceilingStored
      = (.ok 1, ceilingUpdated ceilingOther) := rfl
  have hlisted := (PermissionCall.withinCeiling_iff hrun).mp hwithin _ rfl rfl rfl _
    (List.mem_singleton.mpr rfl)
  have hsame := (plainKeeper Unit).codec.string_injective hlisted
  exact absurd hsame (by decide)

end Wasmd
