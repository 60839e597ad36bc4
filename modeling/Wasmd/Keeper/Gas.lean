import Wasmd.Types.GasRegister

/-!
# The gas a contract call may use

The part of `x/wasm/keeper/keeper.go` between the gas meter of the context and the
virtual machine: how much gas a call is handed (`runtimeGasForContract`), the meter the
machine reads while it runs (`MultipliedGasMeter`) and the charge afterwards
(`consumeRuntimeGas`).

* `runtimeGas_exact_iff` — for which finite meters the machine is handed the
  remaining gas in its own unit, or nothing because of a panic.
* `multipliedReading_mono` — the machine's reading of a meter grows with the meter
  up to the first amount whose product wraps unnoticed.
* `gas_conversion_exact_iff` — both, and the conversion they rest on, for every
  multiplier and every amount.
-/

namespace Wasmd

open Effects Gas

/-- `runtimeGasForContract`; a meter whose limit is the largest number counts as
infinite, whichever kind it is. -/
def runtimeGasForContract (g : WasmGasRegister) (meter : GasMeter) : Except Panic UInt64 :=
  if meter.isOutOfGas then .ok 0
  else if meter.limit = maxUint64 then .ok maxUint64
  else g.toWasmVMGas (meter.limit - meter.gasConsumedToLimit)

/-- `consumeRuntimeGas`: charge, then panic also when exactly nothing is left. -/
def consumeRuntimeGas (g : WasmGasRegister) (meter : GasMeter) (gas : UInt64) :
    Except Panic Unit × GasMeter :=
  match meter.consumeGas (g.fromWasmVMGas gas) "wasm contract" with
  | (.error p, meter') => (.error p, meter')
  | (.ok (), meter') =>
    if meter'.isOutOfGas then (.error (.outOfGas "Wasm engine function execution"), meter')
    else (.ok (), meter')

/-- `MultipliedGasMeter.GasConsumed`: the consumption in the unit of the machine. -/
def multipliedGasConsumed (g : WasmGasRegister) (originalMeter : GasMeter) : Except Panic UInt64 :=
  g.toWasmVMGas originalMeter.gasConsumed

variable (g : WasmGasRegister)

/-! ## What a call is handed -/

theorem runtimeGas_of_limit_max {consumed : UInt64} (h : consumed < maxUint64) :
    runtimeGasForContract g (.basic maxUint64 consumed) = .ok maxUint64 := by
  have hout : ¬ maxUint64 ≤ consumed := UInt64.not_le.mpr h
  simp [runtimeGasForContract, GasMeter.isOutOfGas, GasMeter.limit, hout]

theorem runtimeGas_of_limit_ne_max {limit consumed : UInt64} (h : consumed < limit)
    (hmax : limit ≠ maxUint64) :
    runtimeGasForContract g (.basic limit consumed) = g.toWasmVMGas (limit - consumed) := by
  have hout : ¬ limit ≤ consumed := UInt64.not_le.mpr h
  have hle : ¬ limit < consumed := UInt64.not_lt.mpr (UInt64.le_of_lt h)
  simp [runtimeGasForContract, GasMeter.isOutOfGas, GasMeter.limit, GasMeter.gasConsumedToLimit,
    hout, hmax, hle]

/-- The call panics or is handed the remaining gas in the unit of the machine. -/
def HandsRemaining (limit consumed : UInt64) : Prop :=
  ∀ x, runtimeGasForContract g (.basic limit consumed) = .ok x →
    x.toNat = g.c.gasMultiplier.toNat * (limit.toNat - consumed.toNat)

/-- **Which finite meters are handed over exactly.**  A limit that is not the largest
number goes through the conversion; the largest one is handed over as it stands. -/
theorem runtimeGas_exact_iff {limit consumed : UInt64} (h : consumed < limit) :
    HandsRemaining g limit consumed ↔
      if limit = maxUint64 then
        g.c.gasMultiplier.toNat * (limit.toNat - consumed.toNat) = 2 ^ 64 - 1
      else g.WrapNoticed (limit - consumed) := by
  unfold HandsRemaining
  split
  · rename_i hmax
    subst hmax
    rw [runtimeGas_of_limit_max g h]
    constructor
    · intro hx
      exact (hx maxUint64 rfl).symm
    · intro hx x hok
      cases hok
      exact hx.symm
  · rename_i hmax
    have hsub := UInt64.toNat_sub_of_le limit consumed (UInt64.le_of_lt h)
    rw [runtimeGas_of_limit_ne_max g h hmax, ← g.toWasmVMGas_exact_iff, ← hsub]
    simp only [WasmGasRegister.ConvertsExactly, Nat.mul_comm]

/-! ## What the machine reads -/

/-- The reading does not fall when a meter goes from `meter` to `meter'`. -/
def ReadsMonotone (meter meter' : GasMeter) : Prop :=
  ∀ x x', multipliedGasConsumed g meter = .ok x →
    multipliedGasConsumed g meter' = .ok x' → x ≤ x'

/-- **The reading grows with the meter** as long as the larger consumption does not wrap
unnoticed. -/
theorem multipliedReading_mono {meter meter' : GasMeter}
    (hle : meter.gasConsumed ≤ meter'.gasConsumed) (h : g.WrapNoticed meter'.gasConsumed) :
    ReadsMonotone g meter meter' := by
  intro x x' hx hx'
  obtain ⟨hmod, -⟩ := g.toWasmVMGas_ok_iff.mp hx
  have hexact := (g.toWasmVMGas_exact_iff meter'.gasConsumed).mpr h x' hx'
  rw [UInt64.le_iff_toNat_le] at hle ⊢
  calc x.toNat = meter.gasConsumed.toNat * g.c.gasMultiplier.toNat % 2 ^ 64 := hmod
    _ ≤ meter.gasConsumed.toNat * g.c.gasMultiplier.toNat := Nat.mod_le _ _
    _ ≤ meter'.gasConsumed.toNat * g.c.gasMultiplier.toNat := Nat.mul_le_mul_right _ hle
    _ = x'.toNat := hexact.symm

/-- Neither consumption wraps below itself, and the wrapped products are in the wrong
order: the one way for a reading to fall. -/
def ReadingFalls (c c' : UInt64) : Prop :=
  c.toNat ≤ c.toNat * g.c.gasMultiplier.toNat % 2 ^ 64 ∧
  c'.toNat ≤ c'.toNat * g.c.gasMultiplier.toNat % 2 ^ 64 ∧
  c'.toNat * g.c.gasMultiplier.toNat % 2 ^ 64 < c.toNat * g.c.gasMultiplier.toNat % 2 ^ 64

theorem readsMonotone_iff (meter meter' : GasMeter) :
    ReadsMonotone g meter meter' ↔ ¬ ReadingFalls g meter.gasConsumed meter'.gasConsumed := by
  have hmul := fun s : UInt64 => UInt64.toNat_mul s g.c.gasMultiplier
  constructor
  · rintro h ⟨hc, hc', hgt⟩
    have hle := h _ _ (g.toWasmVMGas_ok_iff.mpr ⟨hmul _, hmul _ ▸ hc⟩)
      (g.toWasmVMGas_ok_iff.mpr ⟨hmul _, hmul _ ▸ hc'⟩)
    rw [UInt64.le_iff_toNat_le, hmul, hmul] at hle
    omega
  · intro h x x' hx hx'
    obtain ⟨hxm, hxle⟩ := g.toWasmVMGas_ok_iff.mp hx
    obtain ⟨hxm', hxle'⟩ := g.toWasmVMGas_ok_iff.mp hx'
    rw [UInt64.le_iff_toNat_le]
    by_contra hgt
    exact h ⟨hxm ▸ hxle, hxm' ▸ hxle', by omega⟩

/-! ## The whole conversion -/

/-- **When gas is converted without wrapping.**  An amount converts exactly (and back),
a call is handed exactly the remaining gas, and a reading does not fall, each under
precisely the stated condition on the product with the multiplier.  A reading whose
larger consumption wraps noticeably or not at all never falls, and no amount wraps
unnoticed only for the multipliers one and two. -/
theorem gas_conversion_exact_iff (g : WasmGasRegister) :
    (∀ s, (∀ x, g.toWasmVMGas s = .ok x →
        x.toNat = s.toNat * g.c.gasMultiplier.toNat ∧ g.fromWasmVMGas x = s) ↔ g.WrapNoticed s) ∧
    (∀ limit consumed, consumed < limit →
      (HandsRemaining g limit consumed ↔
        if limit = maxUint64 then
          g.c.gasMultiplier.toNat * (limit.toNat - consumed.toNat) = 2 ^ 64 - 1
        else g.WrapNoticed (limit - consumed))) ∧
    (∀ meter meter' : GasMeter, meter.gasConsumed ≤ meter'.gasConsumed →
      (ReadsMonotone g meter meter' ↔ ¬ ReadingFalls g meter.gasConsumed meter'.gasConsumed) ∧
      (g.WrapNoticed meter'.gasConsumed → ReadsMonotone g meter meter')) ∧
    ((∀ s, g.WrapNoticed s) ↔ g.c.gasMultiplier.toNat ≤ 2) := by
  refine ⟨fun s => ?_, fun limit consumed h => runtimeGas_exact_iff g h,
    fun meter meter' hle => ⟨readsMonotone_iff g meter meter', multipliedReading_mono g hle⟩, ?_⟩
  · rw [← g.toWasmVMGas_exact_iff]
    constructor
    · intro h x hx
      exact (h x hx).1
    · intro h x hx
      exact ⟨h x hx, g.fromWasmVMGas_of_exact (h x hx)⟩
  · rw [← g.forall_toWasmVMGas_exact_iff]
    exact forall_congr' fun s => (g.toWasmVMGas_exact_iff s).symm

/-- A transaction with a million gas, of which a tenth is used, under the default
multiplier. -/
theorem gas_conversion_exact_million :
    (100000 : UInt64) < 1000000 ∧
      HandsRemaining newDefaultWasmGasRegister 1000000 100000 ∧
      runtimeGasForContract newDefaultWasmGasRegister (.basic 1000000 100000)
        = .ok 126000000000 ∧
      ReadsMonotone newDefaultWasmGasRegister (.basic 1000000 100000) (.basic 1000000 200000) := by
  refine ⟨by decide, ?_, by decide, ?_⟩
  · exact ((gas_conversion_exact_iff newDefaultWasmGasRegister).2.1 1000000 100000
      (by decide)).mpr (by decide)
  · exact ((gas_conversion_exact_iff newDefaultWasmGasRegister).2.2.1 _ _ (by decide)).2 (by decide)

/-- **An amount that wraps unnoticed under the default multiplier.**  It is handed to the
machine as a tiny fraction of the product, converts back to another amount, and reads
lower than a smaller consumption does. -/
theorem gas_conversion_wraps_unnoticed :
    newDefaultWasmGasRegister.toWasmVMGas 131763398836489 = .ok 131763398908384 ∧
      131763398836489 * 140000 = 18446875837108460000 ∧
      newDefaultWasmGasRegister.fromWasmVMGas 131763398908384 = 941167135 ∧
      runtimeGasForContract newDefaultWasmGasRegister (.basic 131763398836489 0)
        = .ok 131763398908384 ∧
      multipliedGasConsumed newDefaultWasmGasRegister (.infinite 131762457669353)
        = .ok 18446744073709420000 ∧
      multipliedGasConsumed newDefaultWasmGasRegister (.infinite 131763398836489)
        = .ok 131763398908384 := by
  refine ⟨by decide, by norm_num, by decide, by decide, by decide, by decide⟩

end Wasmd
