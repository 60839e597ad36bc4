import Wasmd.Lib.Effects
import Mathlib.Tactic

/-!
# Gas meters

The two gas meters of the Cosmos SDK store: one with a limit and one without.  A
meter adds first and panics afterwards, so a meter that ran out of gas shows a
consumption above its limit.

* `consumeGas_ok_iff` — a charge goes through exactly when the sum fits in 64
  bits and, for a meter with a limit, stays within it.
* `consumeGas_limit`, `le_consumeGas` — a charge never moves the limit, and it does
  not lower the consumption unless the sum overflows.
* `Within` — the meter has not run past its limit: the state every meter is in
  as long as nobody caught an out-of-gas panic.
-/

namespace Gas

open Effects

/-- A gas meter: `storetypes.NewGasMeter` and `storetypes.NewInfiniteGasMeter`. -/
inductive GasMeter where
  /-- A meter with a limit. -/
  | basic (limit consumed : UInt64)
  /-- A meter without one. -/
  | infinite (consumed : UInt64)
  deriving DecidableEq, Repr

/-- `math.MaxUint64`. -/
def maxUint64 : UInt64 := 18446744073709551615

namespace GasMeter

/-- `storetypes.NewGasMeter`. -/
def newGasMeter (limit : UInt64) : GasMeter := .basic limit 0

def gasConsumed : GasMeter → UInt64
  | basic _ c => c
  | infinite c => c

/-- `Limit()`; a meter without a limit reports the largest number. -/
def limit : GasMeter → UInt64
  | basic l _ => l
  | infinite _ => maxUint64

/-- Consumed more than the limit. -/
def isPastLimit : GasMeter → Bool
  | basic l c => decide (l < c)
  | infinite _ => false

/-- Nothing is left, which is so at the limit already. -/
def isOutOfGas : GasMeter → Bool
  | basic l c => decide (l ≤ c)
  | infinite _ => false

def gasConsumedToLimit : GasMeter → UInt64
  | basic l c => if l < c then l else c
  | infinite c => c

/-- The same meter with another consumption. -/
def withConsumed : GasMeter → UInt64 → GasMeter
  | basic l _, c => .basic l c
  | infinite _, c => .infinite c

/-- What a sum that does not fit leaves on the meter: a meter with a limit is set to the largest
number, one without keeps the zero that `addUint64Overflow` returns. -/
def overflowed : GasMeter → GasMeter
  | basic l _ => .basic l maxUint64
  | infinite _ => .infinite 0

/-- `ConsumeGas`: add, then panic when the sum does not fit or is past the
limit.  The test for overflow subtracts from the largest number, which never
wraps, so it is written on numbers. -/
def consumeGas (m : GasMeter) (amount : UInt64) (descriptor : String) :
    Except Panic Unit × GasMeter :=
  if maxUint64.toNat - m.gasConsumed.toNat < amount.toNat then
    (.error (.gasOverflow descriptor), m.overflowed)
  else
    let m' := m.withConsumed (m.gasConsumed + amount)
    if m'.isPastLimit then (.error (.outOfGas descriptor), m') else (.ok (), m')

/-- The meter has not run past its limit. -/
def Within (m : GasMeter) : Prop := m.gasConsumed ≤ m.limit

instance (m : GasMeter) : Decidable m.Within := inferInstanceAs (Decidable (_ ≤ _))

/-! ## Reading a meter -/

@[simp] theorem gasConsumed_withConsumed (m : GasMeter) (c : UInt64) :
    (m.withConsumed c).gasConsumed = c := by
  cases m <;> rfl

@[simp] theorem limit_withConsumed (m : GasMeter) (c : UInt64) :
    (m.withConsumed c).limit = m.limit := by
  cases m <;> rfl

@[simp] theorem limit_overflowed (m : GasMeter) : m.overflowed.limit = m.limit := by
  cases m <;> rfl

theorem within_newGasMeter (l : UInt64) : (newGasMeter l).Within := UInt64.zero_le

theorem toNat_maxUint64 : maxUint64.toNat = 2 ^ 64 - 1 := rfl

theorem within_iff (m : GasMeter) : m.Within ↔ m.isPastLimit = false := by
  cases m with
  | basic l c => simp [Within, gasConsumed, limit, isPastLimit]
  | infinite c =>
      simp only [Within, gasConsumed, limit, isPastLimit, iff_true, UInt64.le_iff_toNat_le,
        toNat_maxUint64]
      have := c.toNat_lt
      omega

theorem overflow_iff (c amount : UInt64) :
    maxUint64.toNat - c.toNat < amount.toNat ↔ 2 ^ 64 ≤ c.toNat + amount.toNat := by
  have hc := c.toNat_lt
  rw [toNat_maxUint64]
  omega

theorem toNat_add_of_lt {a b : UInt64} (h : a.toNat + b.toNat < 2 ^ 64) :
    (a + b).toNat = a.toNat + b.toNat := by
  rw [UInt64.toNat_add, Nat.mod_eq_of_lt h]

/-! ## Charging -/

/-- **When a charge goes through.** -/
theorem consumeGas_ok_iff {m m' : GasMeter} {amount : UInt64} {d : String} {u : Unit} :
    m.consumeGas amount d = (.ok u, m') ↔
      m.gasConsumed.toNat + amount.toNat < 2 ^ 64 ∧
      m' = m.withConsumed (m.gasConsumed + amount) ∧ m'.Within := by
  unfold consumeGas
  by_cases hov : maxUint64.toNat - m.gasConsumed.toNat < amount.toNat
  · rw [if_pos hov]
    rw [overflow_iff] at hov
    constructor
    · intro h
      cases h
    · rintro ⟨hfit, -, -⟩
      omega
  · rw [if_neg hov]
    rw [overflow_iff, not_le] at hov
    simp only [within_iff]
    constructor
    · intro h
      split at h
      · cases h
      · rename_i hpast
        cases h
        exact ⟨hov, rfl, by simpa using hpast⟩
    · rintro ⟨-, rfl, hw⟩
      rw [hw]
      rfl

theorem consumeGas_run {m : GasMeter} {amount : UInt64} (d : String)
    (hfit : m.gasConsumed.toNat + amount.toNat < 2 ^ 64)
    (hlim : m.gasConsumed.toNat + amount.toNat ≤ m.limit.toNat) :
    m.consumeGas amount d = (.ok (), m.withConsumed (m.gasConsumed + amount)) := by
  rw [consumeGas_ok_iff]
  refine ⟨hfit, rfl, ?_⟩
  rw [Within, gasConsumed_withConsumed, limit_withConsumed, UInt64.le_iff_toNat_le,
    toNat_add_of_lt hfit]
  exact hlim

/-- A charge that goes through adds exactly the amount. -/
theorem gasConsumed_of_consumeGas_ok {m m' : GasMeter} {amount : UInt64} {d : String} {u : Unit}
    (h : m.consumeGas amount d = (.ok u, m')) :
    m'.gasConsumed.toNat = m.gasConsumed.toNat + amount.toNat := by
  obtain ⟨hfit, rfl, -⟩ := consumeGas_ok_iff.mp h
  rw [gasConsumed_withConsumed, toNat_add_of_lt hfit]

/-- A charge that fits in 64 bits adds the amount, also when it is past the limit. -/
theorem toNat_gasConsumed_consumeGas {m : GasMeter} {amount : UInt64} {d : String}
    (hfit : m.gasConsumed.toNat + amount.toNat < 2 ^ 64) :
    (m.consumeGas amount d).2.gasConsumed.toNat = m.gasConsumed.toNat + amount.toNat := by
  unfold consumeGas
  rw [if_neg (by rw [overflow_iff]; omega), ← toNat_add_of_lt hfit]
  dsimp only
  split <;> rw [gasConsumed_withConsumed]

theorem consumeGas_limit (m : GasMeter) (amount : UInt64) (d : String) :
    (m.consumeGas amount d).2.limit = m.limit := by
  unfold consumeGas
  split
  · simp
  · simp only
    split <;> simp

/-- A charge that overflows. -/
theorem consumeGas_of_overflow {m : GasMeter} {amount : UInt64} (d : String)
    (h : 2 ^ 64 ≤ m.gasConsumed.toNat + amount.toNat) :
    m.consumeGas amount d = (.error (.gasOverflow d), m.overflowed) := by
  rw [consumeGas, if_pos ((overflow_iff _ _).mpr h)]

/-- A charge that goes through does not lower the consumption. -/
theorem le_consumeGas {m m' : GasMeter} {amount : UInt64} {d : String} {u : Unit}
    (h : m.consumeGas amount d = (.ok u, m')) : m.gasConsumed ≤ m'.gasConsumed := by
  rw [UInt64.le_iff_toNat_le, gasConsumed_of_consumeGas_ok h]
  exact Nat.le_add_right _ _

end GasMeter
end Gas
