import Wasmd.Keeper.Entry

/-!
# The charge for setting a contract up

`GasRegister.SetupContractCost` is documented to be charged every time a contract is prepared for
execution through any entry point.

* `Wraps` — a `uint64` that stands for a number modulo `2 ^ 64`.
* `setup_charged` — what each entry point charges, as a number.
* `setup_cost_charged` — that is at least the smaller of the two instance costs, unless the sum
  overflows; the callbacks of IBC v2 charge nothing.
-/

namespace Wasmd

open ByteStore Effects Gas

variable {ε C α : Type}

/-! ## Sums that wrap -/

/-- The word stands for the number modulo `2 ^ 64`. -/
def Wraps (x : UInt64) (n : Nat) : Prop := x.toNat = n % 2 ^ 64

namespace Wraps

variable {x y : UInt64} {m n : Nat}

theorem toNat (x : UInt64) : Wraps x x.toNat := (Nat.mod_eq_of_lt x.toNat_lt).symm

theorem ofNat (n : Nat) : Wraps (UInt64.ofNat n) n := UInt64.toNat_ofNat'

theorem add (hx : Wraps x m) (hy : Wraps y n) : Wraps (x + y) (m + n) := by
  unfold Wraps at *
  rw [UInt64.toNat_add, hx, hy, ← Nat.add_mod]

theorem mul (hx : Wraps x m) (hy : Wraps y n) : Wraps (x * y) (m * n) := by
  unfold Wraps at *
  rw [UInt64.toNat_mul, hx, hy, ← Nat.mul_mod]

/-- A sum accumulated over a list. -/
theorem foldl {f : α → UInt64} {g : α → Nat} (hf : ∀ a, Wraps (f a) (g a)) (l : List α)
    (hx : Wraps x n) : Wraps (l.foldl (fun s a => s + f a) x) (n + (l.map g).sum) := by
  induction l generalizing x n with
  | nil => simpa using hx
  | cons a rest ih =>
      rw [List.map_cons, List.sum_cons, ← Nat.add_assoc]
      exact ih (hx.add (hf a))

end Wraps

/-! ## The cost as a number -/

/-- `SetupContractCost` over the integers. -/
def exactSetup (c : WasmGasRegisterConfig) (discount : Bool) (msgLen : Nat) : Nat :=
  (if discount then c.instanceCostDiscount.toNat else c.instanceCost.toNat) +
    msgLen * c.contractMessageDataCost.toNat

/-- `ReplyCosts` over the integers; the part for attributes never wraps. -/
def exactReply (g : WasmGasRegister) (reply : Reply) : Nat :=
  match reply.result.ok with
  | none => exactSetup g.c true reply.result.err.utf8ByteSize
  | some ok =>
    (ok.events.map fun e => e.type.utf8ByteSize * g.c.eventAttributeDataCost.toNat).sum +
      ((g.eventCosts (ok.events.flatMap Event.attributes) []).toOption.getD 0).toNat +
      exactSetup g.c true (reply.result.err.utf8ByteSize + (ok.data.getD []).length)

/-- How an entry point is paid for. -/
inductive Payment where
  /-- By the size of the message. -/
  | message (msgLen : Nat)
  | reply (reply : Reply)
  /-- Not at all. -/
  | free

def VMEntry.payment : VMEntry → Payment
  | query req => .message req.length
  | ibcChannelOpen msg => .message msg.expectedJSONSize
  | respond input =>
    match input with
    | .instantiate _ _ msg | .execute _ _ msg | .migrate msg _ _ | .sudo msg => .message msg.length
    | .reply reply => .reply reply
    | .ibcChannelConnect msg | .ibcChannelClose msg | .ibcPacketAck msg | .ibcPacketTimeout msg
    | .ibcSourceCallback msg | .ibcDestinationCallback msg => .message msg.expectedJSONSize
    | .ibcPacketReceive msg => .message msg.expectedJSONSize
    | .ibc2PacketAck _ | .ibc2PacketReceive _ | .ibc2PacketTimeout _ | .ibc2PacketSend _ => .free

/-- The cost over the integers; `discount` is the decision of `checkDiscountEligibility`. -/
def Payment.exact (g : WasmGasRegister) (discount : Bool) : Payment → Nat
  | message msgLen => exactSetup g.c discount msgLen
  | reply r => exactReply g r
  | free => 0

section Costs

variable {g : WasmGasRegister}

theorem setupContractCost_wraps {discount : Bool} {msgLen : Nat} {cost : UInt64}
    (h : g.setupContractCost discount msgLen = .ok cost) :
    Wraps cost (exactSetup g.c discount msgLen) := by
  have hdata : Wraps (UInt64.ofNat (msgLen : Int).toNat * g.c.contractMessageDataCost)
      (msgLen * g.c.contractMessageDataCost.toNat) := (Wraps.ofNat _).mul (Wraps.toNat _)
  have hneg : ¬ (msgLen : Int) < 0 := by omega
  cases discount with
  | true =>
      simp only [WasmGasRegister.setupContractCost, if_neg hneg, if_true] at h
      cases h
      exact (Wraps.toNat _).add hdata
  | false =>
      simp only [WasmGasRegister.setupContractCost, if_neg hneg] at h
      cases h
      exact (Wraps.toNat _).add hdata

theorem replyCosts_wraps {reply : Reply} {cost : UInt64} (h : g.replyCosts true reply = .ok cost) :
    Wraps cost (exactReply g reply) := by
  unfold WasmGasRegister.replyCosts at h
  unfold exactReply
  cases hok : reply.result.ok with
  | none =>
      simp only [hok] at h
      cases hs : g.setupContractCost true reply.result.err.utf8ByteSize with
      | error p => simp [hs, bind, Except.bind] at h
      | ok setup =>
          simp only [hs, bind, Except.bind, UInt64.zero_add] at h
          cases h
          exact setupContractCost_wraps hs
  | some ok =>
      simp only [hok] at h ⊢
      cases ha : g.eventCosts (ok.events.flatMap Event.attributes) [] with
      | error p => simp [ha, bind, Except.bind] at h
      | ok attrGas =>
          cases hs : g.setupContractCost true
              ((reply.result.err.utf8ByteSize : Int) + ((ok.data.getD []).length : Int)) with
          | error p => simp [ha, hs, bind, Except.bind] at h
          | ok setup =>
              simp only [ha, hs, bind, Except.bind] at h
              cases h
              have htypes := Wraps.foldl (x := 0) (n := 0)
                (f := fun e : Event => lenString e.type * g.c.eventAttributeDataCost)
                (g := fun e => e.type.utf8ByteSize * g.c.eventAttributeDataCost.toNat)
                (fun e => (Wraps.ofNat _).mul (Wraps.toNat _)) ok.events rfl
              rw [Nat.zero_add] at htypes
              refine (htypes.add ?_).add (setupContractCost_wraps (by exact_mod_cast hs))
              exact Wraps.toNat attrGas

end Costs

/-! ## What an entry point charges -/

/-- The decision of `checkDiscountEligibility` for a code. -/
def isDiscounted (codeID : UInt64) (checksum : Bytes) (w : World (Multistore ε) Shared) : Bool :=
  discounted checksum (w.ms.wasm.isPinnedCode codeID) w.shared.txContracts

/-- The meter grew by a cost that stands for the number `n`. -/
def Charged (w w' : World (Multistore ε) Shared) (n : Nat) : Prop :=
  ∃ cost, Wraps cost n ∧ w'.gas.gasConsumed.toNat = w.gas.gasConsumed.toNat + cost.toNat

section Charges

variable {k : Keeper ε C} {w w' : World (Multistore ε) Shared} {u : Unit}

theorem charged_of_consumeGas {cost : UInt64} {descriptor : String} {n : Nat} (hcost : Wraps cost n)
    (h : (consumeGas cost descriptor : KeeperM ε Unit) w = (.ok u, w')) : Charged w w' n := by
  obtain ⟨m, hm, rfl⟩ := consumeGas_ok_iff.mp h
  exact ⟨cost, hcost, GasMeter.gasConsumed_of_consumeGas_ok hm⟩

theorem loadModule_charged {name : String} {codeID : UInt64} {checksum : Bytes} {msgLen : Nat}
    (h : k.loadModule name codeID checksum msgLen w = (.ok u, w')) :
    Charged w w' (exactSetup k.gasRegister.c (isDiscounted codeID checksum w) msgLen) := by
  unfold Keeper.loadModule at h
  obtain ⟨isPinned, _, hpin, h₁⟩ := GoM.bind_ok_iff.mp h
  obtain ⟨rfl, rfl⟩ := readStore_ok_iff.mp hpin
  obtain ⟨discount, _, hdisc, h₂⟩ := GoM.bind_ok_iff.mp h₁
  cases hdisc
  obtain ⟨cost, _, hset, h₃⟩ := GoM.bind_ok_iff.mp h₂
  obtain ⟨hcost, rfl⟩ := orPanic_ok_iff.mp hset
  obtain ⟨cost, hwraps, hgas⟩ := charged_of_consumeGas (setupContractCost_wraps hcost) h₃
  exact ⟨cost, hwraps, hgas⟩

theorem loadReply_charged {reply : Reply} (h : k.loadReply reply w = (.ok u, w')) :
    Charged w w' (exactReply k.gasRegister reply) := by
  obtain ⟨cost, _, hset, h₁⟩ := GoM.bind_ok_iff.mp h
  obtain ⟨hcost, rfl⟩ := orPanic_ok_iff.mp hset
  exact charged_of_consumeGas (replyCosts_wraps hcost) h₁

/-- **What is charged before the VM is called**, entry point by entry point. -/
theorem setup_charged {codeID : UInt64} {checksum : Bytes} {entry : VMEntry}
    (h : k.setup codeID checksum entry w = (.ok u, w')) :
    Charged w w' (entry.payment.exact k.gasRegister (isDiscounted codeID checksum w)) := by
  have hfree : (pure () : KeeperM ε Unit) w = (.ok u, w') → Charged w w' 0 := by
    intro hpure
    obtain ⟨-, rfl⟩ := GoM.pure_ok_iff.mp hpure
    exact ⟨0, rfl, rfl⟩
  cases entry with
  | query req => exact loadModule_charged h
  | ibcChannelOpen msg => exact loadModule_charged h
  | respond input =>
      cases input with
      | reply r => exact loadReply_charged h
      | ibc2PacketAck _ => exact hfree h
      | ibc2PacketReceive _ => exact hfree h
      | ibc2PacketTimeout _ => exact hfree h
      | ibc2PacketSend _ => exact hfree h
      | _ => exact loadModule_charged h

end Charges

/-- The smaller of the two instance costs. -/
def leastInstanceCost (c : WasmGasRegisterConfig) : Nat :=
  min c.instanceCost.toNat c.instanceCostDiscount.toNat

theorem VMEntry.payment_exact_of_isIBC2 {entry : VMEntry} (h : entry.entryPoint.isIBC2 = true)
    (g : WasmGasRegister) (discount : Bool) : entry.payment.exact g discount = 0 := by
  cases entry with
  | query req => cases h
  | ibcChannelOpen msg => cases h
  | respond input => cases input <;> first | rfl | cases h

theorem leastInstanceCost_le_exactSetup (c : WasmGasRegisterConfig) (discount : Bool)
    (msgLen : Nat) : leastInstanceCost c ≤ exactSetup c discount msgLen := by
  unfold leastInstanceCost exactSetup
  cases discount <;> simp only [if_true, Bool.false_eq_true, if_false] <;> omega

/-- Without overflow, whatever is paid for covers the smaller instance cost. -/
theorem VMEntry.leastInstanceCost_le_exact {entry : VMEntry} (h : entry.entryPoint.isIBC2 = false)
    (g : WasmGasRegister) (discount : Bool) :
    leastInstanceCost g.c ≤ entry.payment.exact g discount := by
  have hreply : ∀ r, leastInstanceCost g.c ≤ exactReply g r := by
    intro r
    unfold exactReply
    split
    · exact leastInstanceCost_le_exactSetup _ _ _
    · exact Nat.le_add_left_of_le (leastInstanceCost_le_exactSetup _ _ _)
  cases entry with
  | query req => exact leastInstanceCost_le_exactSetup _ _ _
  | ibcChannelOpen msg => exact leastInstanceCost_le_exactSetup _ _ _
  | respond input =>
      cases input with
      | reply r => exact hreply r
      | ibc2PacketAck _ => cases h
      | ibc2PacketReceive _ => cases h
      | ibc2PacketTimeout _ => cases h
      | ibc2PacketSend _ => cases h
      | _ => exact leastInstanceCost_le_exactSetup _ _ _

/-- **Which calls are charged the setup cost.**  Whenever the VM gets called, the charge of the
entry point took the meter from `w` to `w₁`.  Every call but the callbacks of IBC v2 is charged at
least the smaller instance cost, if its cost, summed over the integers, fits in 64 bits; the
callbacks of IBC v2 are charged nothing. -/
theorem setup_cost_charged (k : Keeper ε C) (ctx : SdkContext) (codeID : UInt64)
    (checksum : Bytes) (entry : VMEntry) (between : KeeperM ε AccAddress) (contract : AccAddress)
    (w w' : World (Multistore ε) Shared)
    (h : k.prepare ctx codeID checksum entry between w = (.ok contract, w')) :
    ∃ w₁, k.setup codeID checksum entry w = (.ok (), w₁) ∧
      (entry.entryPoint.isIBC2 = false →
        entry.payment.exact k.gasRegister (isDiscounted codeID checksum w) < 2 ^ 64 →
        w.gas.gasConsumed.toNat + leastInstanceCost k.gasRegister.c ≤ w₁.gas.gasConsumed.toNat) ∧
      (entry.entryPoint.isIBC2 = true → w₁.gas.gasConsumed = w.gas.gasConsumed) := by
  obtain ⟨_, w₁, hsetup, -⟩ := GoM.bind_ok_iff.mp h
  obtain ⟨cost, hcost, hgas⟩ := setup_charged hsetup
  rw [Wraps] at hcost
  refine ⟨w₁, hsetup, fun hibc hfit => ?_, fun hibc => ?_⟩
  · have hleast := entry.leastInstanceCost_le_exact hibc k.gasRegister
      (isDiscounted codeID checksum w)
    rw [hgas, hcost, Nat.mod_eq_of_lt hfit]
    omega
  · rw [entry.payment_exact_of_isIBC2 hibc] at hcost
    exact UInt64.toNat_inj.mp (by omega)

/-- A sudo call on a plain chain is charged the full instance cost the first time. -/
theorem setup_cost_charged_sudo :
    ∃ (contract : AccAddress) (w' w₁ : World (Multistore Unit) Shared),
      (plainKeeper Unit).prepare plainContext 1 [7] (.respond (.sudo [1, 2])) (pure contract)
        (plainWorld .empty (.infinite 0)) = (.ok contract, w') ∧
      (plainKeeper Unit).setup 1 [7] (.respond (.sudo [1, 2])) (plainWorld .empty (.infinite 0)) =
        (.ok (), w₁) ∧
      0 + leastInstanceCost newDefaultWasmGasRegister.c ≤ w₁.gas.gasConsumed.toNat := by
  obtain ⟨w₁, hsetup, hcharged, -⟩ := setup_cost_charged (plainKeeper Unit) plainContext 1 [7]
    (.respond (.sudo [1, 2])) (pure (plainModuleAddress [])) (plainModuleAddress [])
    (plainWorld .empty (.infinite 0)) _ rfl
  exact ⟨plainModuleAddress [], _, w₁, rfl, hsetup, hcharged rfl (by decide)⟩

/-- A gas register with an instance cost of a million, also at a discount. -/
def costlyGasRegister : WasmGasRegister where
  c := { defaultGasRegisterConfig with instanceCost := 1000000, instanceCostDiscount := 1000000 }
  multiplier_ne_zero := by decide

/-- A plain chain with that register. -/
def costlyKeeper : Keeper Unit Unit := { plainKeeper Unit with gasRegister := costlyGasRegister }

/-- **A packet of IBC v2 is received without the setup cost**, however high that is and however long
the message: before the VM is called, only the reads of the store are paid for. -/
theorem setup_cost_free_packet :
    newWasmGasRegister costlyGasRegister.c = .ok costlyKeeper.gasRegister ∧
      costlyKeeper.prepare plainContext 1 [7] (.respond (.ibc2PacketReceive ⟨[1, 2, 3], 1000⟩))
        (pure (plainModuleAddress [])) (plainWorld .empty (.infinite 0)) =
        (.ok (plainModuleAddress []), plainWorld .empty (.infinite 0)) ∧
      leastInstanceCost costlyKeeper.gasRegister.c = 1000000 :=
  ⟨rfl, rfl, by decide⟩

end Wasmd
