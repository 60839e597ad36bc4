import Wasmd.Types.Basic
import Wasmd.Lib.GasMeter

/-!
# The gas register

`x/wasm/types/gas_register.go`: what the module charges for its work, and the
conversion between SDK gas and the gas of the virtual machine.  All sums and
products are those of `uint64` and wrap, except where the source computes with
big integers (`eventAttributeCosts`).

* `toWasmVMGas_ok_iff` — the conversion returns the product modulo `2 ^ 64`,
  unless that is below the amount converted.
* `toWasmVMGas_exact_iff` — it panics or is exact for precisely those amounts whose
  product fits, or wraps to something smaller than the amount.
* `forall_toWasmVMGas_exact_iff` — only the multipliers one and two have no amount
  that wraps unnoticed.
-/

namespace Wasmd

open ByteStore Effects Gas

/-- `wasmvmtypes.UFraction`. -/
structure UFraction where
  numerator : UInt64
  denominator : UInt64
  deriving DecidableEq, Repr

/-- `types.WasmGasRegisterConfig`. -/
structure WasmGasRegisterConfig where
  instanceCost : UInt64
  instanceCostDiscount : UInt64
  compileCost : UInt64
  uncompressCost : UFraction
  gasMultiplier : UInt64
  eventPerAttributeCost : UInt64
  eventAttributeDataCost : UInt64
  eventAttributeDataFreeTier : UInt64
  contractMessageDataCost : UInt64
  customEventCost : UInt64
  pinCodeCost : UInt64
  unpinCodeCost : UInt64
  deriving DecidableEq, Repr

/-- `types.DefaultGasRegisterConfig`. -/
def defaultGasRegisterConfig : WasmGasRegisterConfig where
  instanceCost := 60000
  instanceCostDiscount := 2000
  compileCost := 3
  uncompressCost := ⟨15, 100⟩
  gasMultiplier := 140000
  eventPerAttributeCost := 10
  eventAttributeDataCost := 1
  eventAttributeDataFreeTier := 100
  contractMessageDataCost := 0
  customEventCost := 20
  pinCodeCost := 500000
  unpinCodeCost := 500000

/-- `types.WasmGasRegister`: a configuration that `NewWasmGasRegister` accepts. -/
structure WasmGasRegister where
  c : WasmGasRegisterConfig
  /-- The constructor panics on a multiplier of zero. -/
  multiplier_ne_zero : c.gasMultiplier ≠ 0

/-- `types.NewWasmGasRegister`. -/
def newWasmGasRegister (c : WasmGasRegisterConfig) : Except Panic WasmGasRegister :=
  if h : c.gasMultiplier = 0 then
    .error (.message "GasMultiplier can not be 0: internal logic error")
  else .ok ⟨c, h⟩

/-- `types.NewDefaultWasmGasRegister`. -/
def newDefaultWasmGasRegister : WasmGasRegister := ⟨defaultGasRegisterConfig, by decide⟩

/-- Go's `len` of a string. -/
def lenString (s : String) : UInt64 := UInt64.ofNat s.utf8ByteSize

/-- `calcWithFreeTier`: what is left to pay for, and what is left of the free tier. -/
def calcWithFreeTier (storedBytes freeTier : UInt64) : UInt64 × UInt64 :=
  if storedBytes ≤ freeTier then (0, freeTier - storedBytes) else (storedBytes - freeTier, 0)

namespace WasmGasRegister

variable (g : WasmGasRegister)

/-- `UncompressCosts`. -/
def uncompressCosts (byteLength : Int) : Except Panic UInt64 :=
  if byteLength < 0 then .error (.message "negative length: invalid")
  else if g.c.uncompressCost.denominator = 0 then .error (.message "integer divide by zero")
  else .ok (g.c.uncompressCost.numerator * UInt64.ofNat byteLength.toNat
    / g.c.uncompressCost.denominator)

/-- `SetupContractCost`. -/
def setupContractCost (discount : Bool) (msgLen : Int) : Except Panic UInt64 :=
  if msgLen < 0 then .error (.message "negative length: invalid")
  else
    let dataCost := UInt64.ofNat msgLen.toNat * g.c.contractMessageDataCost
    if discount then .ok (g.c.instanceCostDiscount + dataCost)
    else .ok (g.c.instanceCost + dataCost)

/-- `eventAttributeCosts`. -/
def eventAttributeCosts (attrs : List Attribute) (freeTier : UInt64) :
    Except Panic (UInt64 × UInt64) :=
  if attrs = [] then .ok (0, freeTier)
  else
    let total := attrs.foldl (fun n l => n + (lenString l.key + lenString l.value)) 0
    let (storedBytes, freeTier') := calcWithFreeTier total freeTier
    let r := g.c.eventAttributeDataCost.toNat * storedBytes.toNat
      + g.c.eventPerAttributeCost.toNat * attrs.length
    if r < 2 ^ 64 then .ok (UInt64.ofNat r, freeTier') else .error (.outOfGas "overflow")

/-- The loop of `EventCosts` over the custom events. -/
def customEventCosts : List Event → UInt64 → UInt64 → Except Panic UInt64
  | [], gas, _ => .ok gas
  | e :: rest, gas, freeTier => do
    let (attrCost, freeTier') ← g.eventAttributeCosts e.attributes freeTier
    customEventCosts rest
      (gas + g.c.customEventCost + lenString e.type * g.c.eventAttributeDataCost + attrCost)
      freeTier'

/-- `EventCosts`. -/
def eventCosts (attrs : List Attribute) (events : List Event) : Except Panic UInt64 := do
  let (gas, remainingFreeTier) ← g.eventAttributeCosts attrs g.c.eventAttributeDataFreeTier
  g.customEventCosts events gas remainingFreeTier

/-- `ReplyCosts`; the free tier applies to the attributes of all events together. -/
def replyCosts (discount : Bool) (reply : Reply) : Except Panic UInt64 :=
  match reply.result.ok with
  | none => do
    let setup ← g.setupContractCost discount reply.result.err.utf8ByteSize
    .ok (0 + setup)
  | some ok => do
    let typeGas := ok.events.foldl
      (fun gas e => gas + lenString e.type * g.c.eventAttributeDataCost) 0
    let attrGas ← g.eventCosts (ok.events.flatMap Event.attributes) []
    let setup ← g.setupContractCost discount
      (reply.result.err.utf8ByteSize + (ok.data.getD []).length)
    .ok (typeGas + attrGas + setup)

/-- `ToWasmVMGas`. -/
def toWasmVMGas (source : UInt64) : Except Panic UInt64 :=
  let x := source * g.c.gasMultiplier
  if x < source then .error (.gasOverflow "ToWasmVMGas") else .ok x

/-- `FromWasmVMGas`. -/
def fromWasmVMGas (source : UInt64) : UInt64 := source / g.c.gasMultiplier

/-! ## The conversion -/

theorem multiplier_pos : 0 < g.c.gasMultiplier.toNat := by
  refine Nat.pos_of_ne_zero fun h => g.multiplier_ne_zero ?_
  exact UInt64.toNat_inj.mp h

theorem toWasmVMGas_ok_iff {s x : UInt64} :
    g.toWasmVMGas s = .ok x ↔
      x.toNat = s.toNat * g.c.gasMultiplier.toNat % 2 ^ 64 ∧ s.toNat ≤ x.toNat := by
  have hmul : (s * g.c.gasMultiplier).toNat = s.toNat * g.c.gasMultiplier.toNat % 2 ^ 64 :=
    UInt64.toNat_mul s g.c.gasMultiplier
  simp only [toWasmVMGas]
  by_cases hlt : s * g.c.gasMultiplier < s
  · rw [if_pos hlt]
    rw [UInt64.lt_iff_toNat_lt, hmul] at hlt
    constructor
    · intro h
      cases h
    · rintro ⟨hx, hle⟩
      omega
  · rw [if_neg hlt]
    rw [UInt64.lt_iff_toNat_lt, hmul, not_lt] at hlt
    constructor
    · intro h
      cases h
      exact ⟨hmul, hmul ▸ hlt⟩
    · rintro ⟨hx, -⟩
      rw [UInt64.toNat_inj.mp (hx.trans hmul.symm)]

theorem toWasmVMGas_of_fits {s : UInt64} (h : s.toNat * g.c.gasMultiplier.toNat < 2 ^ 64) :
    ∃ x, g.toWasmVMGas s = .ok x ∧ x.toNat = s.toNat * g.c.gasMultiplier.toNat := by
  have hmul : (s * g.c.gasMultiplier).toNat = s.toNat * g.c.gasMultiplier.toNat := by
    rw [UInt64.toNat_mul, Nat.mod_eq_of_lt h]
  refine ⟨s * g.c.gasMultiplier, g.toWasmVMGas_ok_iff.mpr ⟨?_, ?_⟩, hmul⟩
  · rw [hmul, Nat.mod_eq_of_lt h]
  · rw [hmul]
    exact Nat.le_mul_of_pos_right _ g.multiplier_pos

/-- The conversion of `s` panics or is the product over the integers. -/
def ConvertsExactly (s : UInt64) : Prop :=
  ∀ x, g.toWasmVMGas s = .ok x → x.toNat = s.toNat * g.c.gasMultiplier.toNat

/-- The product of `s` and the multiplier fits, or wraps below `s`, which is what the
conversion looks for. -/
def WrapNoticed (s : UInt64) : Prop :=
  s.toNat * g.c.gasMultiplier.toNat < 2 ^ 64 ∨
    s.toNat * g.c.gasMultiplier.toNat % 2 ^ 64 < s.toNat

instance (s : UInt64) : Decidable (g.WrapNoticed s) := inferInstanceAs (Decidable (_ ∨ _))

/-- **Where the overflow check is complete.** -/
theorem toWasmVMGas_exact_iff (s : UInt64) : g.ConvertsExactly s ↔ g.WrapNoticed s := by
  constructor
  · intro h
    by_contra hno
    simp only [WrapNoticed, not_or, not_lt] at hno
    obtain ⟨hbig, hle⟩ := hno
    have hmul := UInt64.toNat_mul s g.c.gasMultiplier
    have hexact := h _ (g.toWasmVMGas_ok_iff.mpr ⟨hmul, hmul ▸ hle⟩)
    have hlt := (s * g.c.gasMultiplier).toNat_lt
    omega
  · intro h x hx
    obtain ⟨hmod, hle⟩ := g.toWasmVMGas_ok_iff.mp hx
    rcases h with hfit | hwrap
    · rw [hmod, Nat.mod_eq_of_lt hfit]
    · omega

/-- An exact conversion is undone by `FromWasmVMGas`. -/
theorem fromWasmVMGas_of_exact {s x : UInt64}
    (h : x.toNat = s.toNat * g.c.gasMultiplier.toNat) : g.fromWasmVMGas x = s := by
  refine UInt64.toNat_inj.mp ?_
  rw [fromWasmVMGas, UInt64.toNat_div, h, Nat.mul_div_cancel _ g.multiplier_pos]

/-- The least multiple of `k` that is not below `2 ^ 64` lies so close above it that
adding one more factor does not reach `2 ^ 65`. -/
theorem exists_multiple_just_above {k : Nat} (h2 : 2 ≤ k) (hk : k + 1 < 2 ^ 64) :
    ∃ s e, s < 2 ^ 64 ∧ s * k = 2 ^ 64 + e ∧ e + s < 2 ^ 64 := by
  by_cases hhalf : k ≤ 2 ^ 63
  · have hdm := Nat.div_add_mod (2 ^ 64 + (k - 1)) k
    have hmod := Nat.mod_lt (2 ^ 64 + (k - 1)) (show 0 < k by omega)
    have hs : (2 ^ 64 + (k - 1)) / k ≤ 2 ^ 63 := by
      rw [Nat.div_le_iff_le_mul_add_pred (by omega)]
      have : 2 * 2 ^ 63 ≤ k * 2 ^ 63 := Nat.mul_le_mul_right _ h2
      omega
    refine ⟨(2 ^ 64 + (k - 1)) / k, (k - 1) - (2 ^ 64 + (k - 1)) % k, by omega, ?_, by omega⟩
    rw [Nat.mul_comm]
    omega
  · exact ⟨2, 2 * k - 2 ^ 64, by omega, by omega, by omega⟩

/-- **Only the multipliers one and two are safe for every amount.** -/
theorem forall_toWasmVMGas_exact_iff :
    (∀ s, g.ConvertsExactly s) ↔ g.c.gasMultiplier.toNat ≤ 2 := by
  have hm := g.multiplier_pos
  have hlt := g.c.gasMultiplier.toNat_lt
  simp only [toWasmVMGas_exact_iff, WrapNoticed]
  generalize g.c.gasMultiplier.toNat = m at hm hlt
  constructor
  · intro h
    by_contra hbig
    obtain ⟨s, e, hs, hse, hes⟩ := exists_multiple_just_above (k := m - 1) (by omega) (by omega)
    have hprod : s * m = 2 ^ 64 + (e + s) := by
      obtain ⟨k, rfl⟩ : ∃ k, m = k + 1 := ⟨m - 1, by omega⟩
      rw [Nat.add_sub_cancel] at hse
      rw [Nat.mul_succ, hse, Nat.add_assoc]
    have hh := h (UInt64.ofNat s)
    rw [UInt64.toNat_ofNat_of_lt' hs, hprod] at hh
    omega
  · intro h s
    have := s.toNat_lt
    obtain rfl | rfl : m = 1 ∨ m = 2 := by omega
    · left
      omega
    · omega

end WasmGasRegister
end Wasmd
