import Wasmd.Keeper.Entry

/-!
# The gas limit of the VM

The limit handed to the VM is what the context has left, in the unit of the VM.  It bounds the gas
of a whole call, storage included, only if the meter the VM reads is in that unit too.

* `exec_gas` — the meter of the context in a run that was not stopped.
* `GasBounded` — storage gas and converted internal gas of such a run stay within what was left.
* `vm_gas_bounded_iff` — the entry points of `keeper.go` are bounded.  The callbacks of `relay.go`
  and `ibc2.go`, which pass the meter of the context itself, are bounded only where the two units
  cannot be told apart.
-/

namespace Wasmd

open ByteStore Effects Gas

variable {ε ρ : Type}

namespace VMEnv

variable {env : VMEnv ε} {lim : VMLimits}

/-- The meter after charges that went through: it has the limit of `m`, consumed no less, and has
not run past its limit if `m` had not. -/
structure Charged (m m' : GasMeter) : Prop where
  limit : m'.limit = m.limit
  le : m.gasConsumed ≤ m'.gasConsumed
  within : m.Within → m'.Within

theorem Charged.charge {m m₁ m₂ : GasMeter} {amount : UInt64} {d : String} (h : Charged m m₁)
    (hc : m₁.consumeGas amount d = (.ok (), m₂)) : Charged m m₂ where
  limit := by
    have hlimit := GasMeter.consumeGas_limit m₁ amount d
    rw [hc] at hlimit
    exact hlimit.trans h.limit
  le := UInt64.le_trans h.le (GasMeter.le_consumeGas hc)
  within _ := (GasMeter.consumeGas_ok_iff.mp hc).2.2

theorem gas_rule (m : GasMeter) :
    RunRule env (fun w => w.gas.limit = m.limit) (fun w => Charged m w.gas) where
  weaken _ h := h.limit
  charge _ _ _ _ h hc := h.charge hc
  exhaust w amount d p m₁ h hc := by
    have hlimit := GasMeter.consumeGas_limit w.gas amount d
    rw [hc] at hlimit
    exact hlimit.trans h.limit
  write _ _ _ h := h
  remember _ _ h := h
  rememberStopped _ _ h := h

/-- **The meter after a run that was not stopped**: still within its limit, and the limit of the VM
has not been reached. -/
theorem exec_gas {run : ContractRun ρ} {used : Nat} {w w' : World (Multistore ε) Shared}
    {out : VMOutcome ρ} (h : env.exec lim run used w = (.ok out, w'))
    (hout : out.result ≠ .error .outOfGas) :
    Charged w.gas w'.gas ∧ env.running lim out.used w'.gas = true := by
  have hend : Ends env lim (fun w₁ => w₁.gas.limit = w.gas.limit) (fun w₁ => Charged w.gas w₁.gas)
      (env.exec lim run used w) :=
    exec_rule (gas_rule w.gas) run used w ⟨rfl, UInt64.le_refl _, id⟩
  rw [h] at hend
  obtain ⟨out', hout', -, hgo⟩ := hend
  cases hout'
  exact hgo hout

theorem used_lt_of_running {used : Nat} {m : GasMeter} (h : env.running lim used m = true) :
    used < lim.gasLimit.toNat := by
  unfold running at h
  split at h
  · rename_i total hspent
    unfold spent at hspent
    split at hspent
    · cases hspent
      have hlt := of_decide_eq_true h
      omega
    · cases hspent
  · cases h

end VMEnv

/-! ## Arithmetic of the two units -/

/-- Gas in the unit of the VM, when both parts are read in it. -/
theorem sum_le_of_same_unit {m r s used : Nat} (hm : 0 < m) (h : used + m * s < m * r) :
    s + used / m ≤ r := by
  have hdiv : (used + m * s) / m = used / m + s := Nat.add_mul_div_left _ _ hm
  have hle : (used + m * s) / m ≤ r := by
    rw [Nat.div_le_iff_le_mul_add_pred hm]
    omega
  omega

theorem sub_div_mono {m s r : Nat} (hm : 0 < m) (h : s ≤ r) : s - s / m ≤ r - r / m := by
  have hr := Nat.div_le_self r m
  have hstep : r / m ≤ s / m + (r - s) := by
    have hsplit : r = s + (r - s) := by omega
    calc r / m = (s + (r - s)) / m := by rw [← hsplit]
      _ ≤ (s + (r - s) * m) / m := Nat.div_le_div_right (by nlinarith)
      _ = s / m + (r - s) := Nat.add_mul_div_right _ _ hm
  omega

/-- Gas when the storage part is read in the other unit: harmless only if `r - r / m ≤ 1`. -/
theorem sum_le_of_other_unit {m r s used : Nat} (hm : 0 < m) (hs : s ≤ r) (hr : r - r / m ≤ 1)
    (h : used + s < m * r) : s + used / m ≤ r := by
  have hmono := sub_div_mono hm hs
  obtain ⟨t, rfl⟩ := Nat.exists_eq_add_of_le hs
  by_contra hnot
  have hused : (t + 1) * m ≤ used := by
    rw [← Nat.le_div_iff_mul_le hm]
    omega
  -- the storage part alone is then more than the unit can hide
  have hbig : m + s < m * s := by nlinarith
  have hsmall : m * s ≤ s + m := by
    have hfloor := Nat.mul_div_le s m
    have hle : s ≤ s / m + 1 := by omega
    nlinarith [Nat.mul_le_mul_left m hle]
  omega

/-- Otherwise all gas spent on storage leaves room for a unit of computation. -/
theorem room_of_other_unit {m r : Nat} (hm : 0 < m) (hr : ¬ r - r / m ≤ 1) :
    m + r < m * r := by
  have hfloor : r ≤ m * (r / m) + (m - 1) := by
    have hdecomp := Nat.div_add_mod r m
    have hmod := Nat.mod_lt r hm
    omega
  have hgap : r / m + 2 ≤ r := by omega
  have hmul := Nat.mul_le_mul_left m hgap
  rw [Nat.mul_add] at hmul
  omega

/-! ## Entry points -/

/-- A callback of IBC, version one or two. -/
def EntryPoint.isIBC : EntryPoint → Bool
  | .instantiate | .execute | .migrate | .sudo | .reply | .query => false
  | _ => true

theorem EntryPoint.vmMeter_eq (e : EntryPoint) :
    e.vmMeter = if e.isIBC then .raw else .multiplied := by
  cases e <;> rfl

/-- **Bounded**: in every run that was not stopped, on a meter with the given limit and
consumption, the gas charged for storage and the internal gas, in the unit of the SDK, stay within
what was left. -/
def GasBounded (g : WasmGasRegister) (e : EntryPoint) (limit consumed : UInt64) : Prop :=
  ∀ (ε ρ : Type) (env : VMEnv ε) (run : ContractRun ρ) (w w' : World (Multistore ε) Shared)
    (gasLeft : UInt64) (out : VMOutcome ρ), env.gasRegister = g → w.gas = .basic limit consumed →
    runtimeGasForContract g w.gas = .ok gasLeft →
    env.exec ⟨e.vmMeter, gasLeft, e.vmMeter.reading g w.gas⟩ run 0 w = (.ok out, w') →
    out.result ≠ .error .outOfGas →
    (w'.gas.gasConsumed.toNat - consumed.toNat) + (g.fromWasmVMGas (UInt64.ofNat out.used)).toNat ≤
      limit.toNat - consumed.toNat

section Bounded

variable {g : WasmGasRegister} {e : EntryPoint} {limit consumed : UInt64}

/-- Without overflow the conversion is the product. -/
theorem toWasmVMGas_of_fits {s : UInt64} (h : g.c.gasMultiplier.toNat * s.toNat < 2 ^ 64) :
    ∃ x, g.toWasmVMGas s = .ok x ∧ x.toNat = g.c.gasMultiplier.toNat * s.toNat := by
  have hmul := UInt64.toNat_mul s g.c.gasMultiplier
  rw [Nat.mul_comm s.toNat, Nat.mod_eq_of_lt h] at hmul
  have hpos := g.multiplier_pos
  refine ⟨s * g.c.gasMultiplier, g.toWasmVMGas_ok_iff.mpr ⟨?_, ?_⟩, hmul⟩
  · rw [hmul, Nat.mul_comm, Nat.mod_eq_of_lt (by rwa [Nat.mul_comm])]
  · rw [hmul]
    exact Nat.le_mul_of_pos_left _ hpos

theorem toNat_fromWasmVMGas {used : Nat} (h : used < 2 ^ 64) :
    (g.fromWasmVMGas (UInt64.ofNat used)).toNat = used / g.c.gasMultiplier.toNat := by
  rw [WasmGasRegister.fromWasmVMGas, UInt64.toNat_div, UInt64.toNat_ofNat', Nat.mod_eq_of_lt h]

/-- The limit of the VM on a finite meter, without overflow. -/
theorem toNat_gasLeft {gasLeft : UInt64} (hmax : limit ≠ maxUint64)
    (hfit : g.c.gasMultiplier.toNat * limit.toNat < 2 ^ 64)
    (h : runtimeGasForContract g (.basic limit consumed) = .ok gasLeft) :
    gasLeft.toNat = g.c.gasMultiplier.toNat * (limit.toNat - consumed.toNat) := by
  by_cases hlt : consumed < limit
  · have hsub := UInt64.toNat_sub_of_le limit consumed (UInt64.le_of_lt hlt)
    have hle : g.c.gasMultiplier.toNat * (limit - consumed).toNat < 2 ^ 64 := by
      rw [hsub]
      exact Nat.lt_of_le_of_lt (Nat.mul_le_mul_left _ (Nat.sub_le _ _)) hfit
    obtain ⟨x, hx, hnat⟩ := toWasmVMGas_of_fits hle
    rw [runtimeGas_of_limit_ne_max g hlt hmax, hx] at h
    cases h
    rw [hnat, hsub]
  · have hout : (GasMeter.basic limit consumed).isOutOfGas = true := by
      simpa [GasMeter.isOutOfGas] using hlt
    rw [runtimeGasForContract, if_pos hout] at h
    cases h
    have hle := UInt64.le_iff_toNat_le.mp (UInt64.not_lt.mp hlt)
    rw [Nat.sub_eq_zero_of_le hle]
    rfl

theorem running_raw {env : VMEnv ε} {m m' : GasMeter} {gasLeft : UInt64} {used : Nat}
    (h : env.running ⟨.raw, gasLeft, VMMeter.raw.reading g m⟩ used m' = true) :
    used + (m'.gasConsumed.toNat - m.gasConsumed.toNat) < gasLeft.toNat := by
  simpa [VMEnv.running, VMEnv.spent, VMMeter.reading] using h

theorem running_multiplied {env : VMEnv ε} (henv : env.gasRegister = g) {m m' : GasMeter}
    (hle : m.gasConsumed ≤ m'.gasConsumed)
    (hfit : g.c.gasMultiplier.toNat * m'.gasConsumed.toNat < 2 ^ 64) {gasLeft : UInt64} {used : Nat}
    (h : env.running ⟨.multiplied, gasLeft, VMMeter.multiplied.reading g m⟩ used m' = true) :
    used + g.c.gasMultiplier.toNat * (m'.gasConsumed.toNat - m.gasConsumed.toNat) <
      gasLeft.toNat := by
  have hle' := UInt64.le_iff_toNat_le.mp hle
  obtain ⟨x, hx, hxnat⟩ := toWasmVMGas_of_fits
    (Nat.lt_of_le_of_lt (Nat.mul_le_mul_left g.c.gasMultiplier.toNat hle') hfit)
  obtain ⟨y, hy, hynat⟩ := toWasmVMGas_of_fits hfit
  simp only [VMEnv.running, VMEnv.spent, VMMeter.reading, multipliedGasConsumed, henv, hx, hy,
    decide_eq_true_eq, hxnat, hynat] at h
  rwa [Nat.mul_sub]

/-- Only a meter with something left gives the VM a positive limit. -/
theorem lt_of_gasLeft_pos {gasLeft : UInt64} (hpos : 0 < gasLeft.toNat)
    (h : runtimeGasForContract g (.basic limit consumed) = .ok gasLeft) : consumed < limit := by
  by_contra hlt
  have hout : (GasMeter.basic limit consumed).isOutOfGas = true := by
    simpa [GasMeter.isOutOfGas] using hlt
  rw [runtimeGasForContract, if_pos hout] at h
  cases h
  exact absurd hpos (by decide)

/-- What the meter and the VM show after a run that was not stopped. -/
structure Returned (env : VMEnv ε) (e : EntryPoint) (limit consumed gasLeft : UInt64)
    (out : VMOutcome ρ) (m : GasMeter) : Prop where
  started : consumed < limit
  grown : (GasMeter.basic limit consumed).gasConsumed ≤ m.gasConsumed
  within : m.gasConsumed.toNat ≤ limit.toNat
  used_lt : out.used < gasLeft.toNat
  running : env.running ⟨e.vmMeter, gasLeft,
    e.vmMeter.reading env.gasRegister (.basic limit consumed)⟩ out.used m = true

theorem returned_of_exec {env : VMEnv ε} {run : ContractRun ρ} {w w' : World (Multistore ε) Shared}
    {gasLeft : UInt64} {out : VMOutcome ρ} (hgas : w.gas = .basic limit consumed)
    (hleft : runtimeGasForContract env.gasRegister w.gas = .ok gasLeft)
    (hrun : env.exec ⟨e.vmMeter, gasLeft, e.vmMeter.reading env.gasRegister w.gas⟩ run 0 w =
      (.ok out, w')) (hout : out.result ≠ .error .outOfGas) :
    Returned env e limit consumed gasLeft out w'.gas := by
  obtain ⟨⟨hlim, hgrow, hin⟩, hgo⟩ := VMEnv.exec_gas hrun hout
  rw [hgas] at hleft hgo hgrow hlim hin
  have hused := VMEnv.used_lt_of_running hgo
  have hlt := lt_of_gasLeft_pos (Nat.lt_of_le_of_lt (Nat.zero_le _) hused) hleft
  have hwithin := UInt64.le_iff_toNat_le.mp (hin (UInt64.le_of_lt hlt))
  rw [hlim] at hwithin
  exact ⟨hlt, hgrow, hwithin, hused, hgo⟩

/-- **Bounded wherever the meter is converted, or the units cannot be told apart.** -/
theorem gasBounded_of_units (hmax : limit ≠ maxUint64)
    (hfit : g.c.gasMultiplier.toNat * limit.toNat < 2 ^ 64)
    (h : e.isIBC = false ∨
      limit.toNat - consumed.toNat - (limit.toNat - consumed.toNat) / g.c.gasMultiplier.toNat ≤ 1) :
    GasBounded g e limit consumed := by
  rintro ε ρ env run w w' gasLeft out rfl hgas hleft hrun hout
  have hpos := env.gasRegister.multiplier_pos
  have hret := returned_of_exec hgas hleft hrun hout
  rw [hgas] at hleft
  have hnat := toNat_gasLeft hmax hfit hleft
  rw [toNat_fromWasmVMGas (Nat.lt_trans hret.used_lt gasLeft.toNat_lt)]
  have hgo := hret.running
  rw [e.vmMeter_eq] at hgo
  cases hibc : e.isIBC with
  | false =>
      rw [hibc] at hgo
      have hfit' := Nat.lt_of_le_of_lt
        (Nat.mul_le_mul_left env.gasRegister.c.gasMultiplier.toNat hret.within) hfit
      have htotal := running_multiplied rfl hret.grown hfit' hgo
      rw [hnat] at htotal
      exact sum_le_of_same_unit hpos htotal
  | true =>
      rw [hibc] at hgo
      have hunits := h.resolve_left (by simp [hibc])
      have htotal := running_raw hgo
      rw [hnat] at htotal
      exact sum_le_of_other_unit hpos (Nat.sub_le_sub_right hret.within _) hunits htotal

/-- **With the largest limit**, which counts as infinite, the VM is given that limit whatever has
been consumed. -/
theorem gasBounded_of_max (hone : g.c.gasMultiplier.toNat = 1)
    (h : consumed.toNat ≤ 1 ∨ consumed = maxUint64) : GasBounded g e maxUint64 consumed := by
  rintro ε ρ env run w w' gasLeft out rfl hgas hleft hrun hout
  have hret := returned_of_exec hgas hleft hrun hout
  rw [hgas, runtimeGas_of_limit_max _ hret.started] at hleft
  cases hleft
  rw [toNat_fromWasmVMGas (Nat.lt_trans hret.used_lt maxUint64.toNat_lt), hone, Nat.div_one]
  have hstarted := UInt64.lt_iff_toNat_lt.mp hret.started
  have hfew : consumed.toNat ≤ 1 := h.resolve_right (by rintro rfl; omega)
  have hgo := hret.running
  rw [e.vmMeter_eq] at hgo
  have htotal : out.used + (w'.gas.gasConsumed.toNat - consumed.toNat) < maxUint64.toNat := by
    cases hibc : e.isIBC with
    | false =>
        rw [hibc] at hgo
        have hfit : env.gasRegister.c.gasMultiplier.toNat * w'.gas.gasConsumed.toNat < 2 ^ 64 := by
          rw [hone, Nat.one_mul]
          exact w'.gas.gasConsumed.toNat_lt
        have hmul := running_multiplied rfl hret.grown hfit hgo
        rwa [hone, Nat.one_mul] at hmul
    | true =>
        rw [hibc] at hgo
        exact running_raw hgo
  omega

/-! ### Spending twice -/

/-- A contract that spends `storage` on its storage and then `gas` on computation. -/
def overspend (gas : UInt64) : ContractRun Unit := .get [] fun _ => .compute gas (.ret ())

/-- An environment in which an access to storage costs `storage`. -/
def storageEnv (g : WasmGasRegister) (storage : UInt64) : VMEnv Unit where
  gasRegister := g
  storageGas _ := storage
  storagePanic := ""
  handleQuery _ := GoM.failWith (.foreign "no query")
  contract := .single 1

/-- A world with the given meter. -/
def meterWorld (m : GasMeter) : World (Multistore Unit) Shared :=
  ⟨⟨.empty, [], ()⟩, m, [], ⟨none, ⟨∅, []⟩⟩⟩

theorem whenRunning_raw {env : VMEnv ε} {m : GasMeter} {gasLeft : UInt64} {used : Nat}
    {next : KeeperM ε (VMOutcome ρ)} {w : World (Multistore ε) Shared}
    (h : used + (w.gas.gasConsumed.toNat - m.gasConsumed.toNat) < gasLeft.toNat) :
    env.whenRunning ⟨.raw, gasLeft, VMMeter.raw.reading g m⟩ used next w = next w := by
  have hrun : env.running ⟨.raw, gasLeft, VMMeter.raw.reading g m⟩ used w.gas = true := by
    simpa [VMEnv.running, VMEnv.spent, VMMeter.reading] using h
  rw [VMEnv.whenRunning, if_pos hrun]

theorem access_of_charged {env : VMEnv ε} {a : StorageAccess} {used : Nat}
    {next : KeeperM ε (VMOutcome ρ)} {w : World (Multistore ε) Shared} {m : GasMeter}
    (h : w.gas.consumeGas (env.storageGas a) "contract storage" = (.ok (), m)) :
    env.access a used next w = next { w with gas := m } := by
  rw [VMEnv.access, h]

/-- The run goes through on the meter of the context as long as the plain sum stays below the
limit of the VM. -/
theorem exec_overspend (g : WasmGasRegister) (limit consumed gasLeft storage gas : UInt64)
    (hin : consumed.toNat + storage.toNat ≤ limit.toNat)
    (hsum : storage.toNat + gas.toNat < gasLeft.toNat) :
    (storageEnv g storage).exec ⟨.raw, gasLeft, VMMeter.raw.reading g (.basic limit consumed)⟩
        (overspend gas) 0 (meterWorld (.basic limit consumed)) =
      (.ok ⟨.ok (), 0 + gas.toNat⟩, meterWorld (.basic limit (consumed + storage))) := by
  have hfit := Nat.lt_of_le_of_lt hin limit.toNat_lt
  have hnat : (consumed + storage).toNat = consumed.toNat + storage.toNat :=
    GasMeter.toNat_add_of_lt hfit
  have hcharge : (GasMeter.basic limit consumed).consumeGas storage "contract storage" =
      (.ok (), .basic limit (consumed + storage)) := GasMeter.consumeGas_run _ hfit hin
  have hgrown : ∀ used : Nat, used + storage.toNat < gasLeft.toNat →
      used + ((GasMeter.basic limit (consumed + storage)).gasConsumed.toNat -
        (GasMeter.basic limit consumed).gasConsumed.toNat) < gasLeft.toNat := by
    intro used hlt
    simp only [GasMeter.gasConsumed, hnat]
    omega
  rw [overspend, VMEnv.exec, whenRunning_raw (by simp [meterWorld]; omega)]
  show VMEnv.access _ _ _ _ _ = _
  rw [access_of_charged hcharge, VMEnv.exec, whenRunning_raw (hgrown 0 (by omega)), VMEnv.exec,
    whenRunning_raw (hgrown _ (by omega))]
  rfl

/-- **A callback with the raw meter is not bounded** where the units can be told apart: the
contract spends everything on storage and a unit of the SDK on computation. -/
theorem not_gasBounded_of_units (hmax : limit ≠ maxUint64)
    (hfit : g.c.gasMultiplier.toNat * limit.toNat < 2 ^ 64) (he : e.isIBC = true)
    (h : ¬ limit.toNat - consumed.toNat -
      (limit.toNat - consumed.toNat) / g.c.gasMultiplier.toNat ≤ 1) :
    ¬ GasBounded g e limit consumed := by
  intro hb
  have hpos := g.multiplier_pos
  have hroom := room_of_other_unit hpos h
  have hlt : consumed.toNat < limit.toNat := by
    by_contra hle
    rw [Nat.sub_eq_zero_of_le (Nat.le_of_not_lt hle), Nat.mul_zero] at hroom
    omega
  have hsub := UInt64.toNat_sub_of_le limit consumed (UInt64.le_of_lt hlt)
  obtain ⟨gasLeft, hleft⟩ : ∃ x, runtimeGasForContract g (.basic limit consumed) = .ok x := by
    rw [runtimeGas_of_limit_ne_max g hlt hmax]
    obtain ⟨x, hx, -⟩ := toWasmVMGas_of_fits (g := g) (s := limit - consumed)
      (Nat.lt_of_le_of_lt (Nat.mul_le_mul_left _ (by omega)) hfit)
    exact ⟨x, hx⟩
  have hnat := toNat_gasLeft hmax hfit hleft
  have hunit := g.c.gasMultiplier.toNat_lt
  have hrun := exec_overspend g limit consumed gasLeft (limit - consumed) g.c.gasMultiplier
    (by omega) (by omega)
  have hmeter : e.vmMeter = .raw := by
    rw [e.vmMeter_eq, he]
    rfl
  have htotal := hb Unit Unit (storageEnv g (limit - consumed)) (overspend g.c.gasMultiplier)
    (meterWorld (.basic limit consumed)) _ gasLeft ⟨.ok (), 0 + g.c.gasMultiplier.toNat⟩ rfl rfl
    hleft (hmeter ▸ hrun) (by simp)
  rw [Nat.zero_add, toNat_fromWasmVMGas hunit, Nat.div_self hpos] at htotal
  have hspent : (meterWorld (.basic limit (consumed + (limit - consumed)))).gas.gasConsumed.toNat =
      limit.toNat := by
    show (consumed + (limit - consumed)).toNat = limit.toNat
    rw [GasMeter.toNat_add_of_lt] <;> rw [hsub] <;> have := limit.toNat_lt <;> omega
  omega

/-- Computation alone is not stopped below the limit, whichever meter is read. -/
theorem exec_compute (env : VMEnv ε) (vmMeter : VMMeter) (gasLeft gas : UInt64)
    (w : World (Multistore ε) Shared) {start : UInt64}
    (hstart : vmMeter.reading env.gasRegister w.gas = .ok start) (hlt : gas.toNat < gasLeft.toNat) :
    env.exec ⟨vmMeter, gasLeft, vmMeter.reading env.gasRegister w.gas⟩
      (.compute gas (.ret ())) 0 w =
      (.ok ⟨.ok (), 0 + gas.toNat⟩, w) := by
  have hrun : ∀ used : Nat, used < gasLeft.toNat → env.running
      ⟨vmMeter, gasLeft, vmMeter.reading env.gasRegister w.gas⟩ used w.gas = true := by
    intro used hused
    simpa [VMEnv.running, VMEnv.spent, hstart] using hused
  rw [VMEnv.exec, VMEnv.whenRunning, if_pos (hrun 0 (by omega)), VMEnv.exec, VMEnv.whenRunning,
    if_pos (hrun _ (by omega))]
  rfl

theorem not_gasBounded_of_max (hone : g.c.gasMultiplier.toNat = 1) (hmany : 1 < consumed.toNat)
    (hlt : consumed < maxUint64) : ¬ GasBounded g e maxUint64 consumed := by
  intro hb
  let gas : UInt64 := maxUint64 - consumed + 1
  have hlt' := UInt64.lt_iff_toNat_lt.mp hlt
  have hsub := UInt64.toNat_sub_of_le maxUint64 consumed (UInt64.le_of_lt hlt)
  have hgas : gas.toNat = maxUint64.toNat - consumed.toNat + 1 := by
    show (maxUint64 - consumed + 1).toNat = _
    rw [GasMeter.toNat_add_of_lt] <;> rw [hsub]
    · rfl
    · rw [GasMeter.toNat_maxUint64, UInt64.toNat_one]
      omega
  obtain ⟨start, hstart⟩ : ∃ x, e.vmMeter.reading g (.basic maxUint64 consumed) = .ok x := by
    rw [e.vmMeter_eq]
    cases e.isIBC with
    | false =>
        obtain ⟨x, hx, -⟩ := toWasmVMGas_of_fits (g := g) (s := consumed)
          (by rw [hone, Nat.one_mul]; exact consumed.toNat_lt)
        exact ⟨x, hx⟩
    | true => exact ⟨_, rfl⟩
  have hrun := exec_compute (storageEnv g 0) e.vmMeter maxUint64 gas
    (meterWorld (.basic maxUint64 consumed)) hstart (by omega)
  have htotal := hb Unit Unit (storageEnv g 0) (.compute gas (.ret ()))
    (meterWorld (.basic maxUint64 consumed)) _ maxUint64 ⟨.ok (), 0 + gas.toNat⟩ rfl rfl
    (runtimeGas_of_limit_max g hlt) hrun (by simp)
  rw [Nat.zero_add, toNat_fromWasmVMGas gas.toNat_lt, hone, Nat.div_one] at htotal
  omega

end Bounded

/-- **Where the gas limit of the VM bounds a whole call.**  At every entry point of `keeper.go`;
at the callbacks of IBC only if the gas left before the call, in SDK units, exceeds its own
quotient by the multiplier by at most one.  A meter with the largest limit counts as infinite, so
that a finite one is bounded only if next to nothing or everything has been consumed. -/
theorem vm_gas_bounded_iff (g : WasmGasRegister) (e : EntryPoint) (limit consumed : UInt64)
    (hfit : g.c.gasMultiplier.toNat * limit.toNat < 2 ^ 64) :
    GasBounded g e limit consumed ↔
      if limit = maxUint64 then consumed.toNat ≤ 1 ∨ consumed = maxUint64
      else e.isIBC = false ∨
        limit.toNat - consumed.toNat -
          (limit.toNat - consumed.toNat) / g.c.gasMultiplier.toNat ≤ 1 := by
  split
  · rename_i hmax
    subst hmax
    have hone : g.c.gasMultiplier.toNat = 1 := by
      have hpos := g.multiplier_pos
      rw [GasMeter.toNat_maxUint64] at hfit
      omega
    refine ⟨fun hb => ?_, gasBounded_of_max hone⟩
    by_contra h
    rw [not_or, not_le] at h
    have hlt : consumed.toNat < maxUint64.toNat := by
      have hne : consumed.toNat ≠ maxUint64.toNat := fun heq => h.2 (UInt64.toNat_inj.mp heq)
      have hle := consumed.toNat_lt
      rw [GasMeter.toNat_maxUint64] at hne ⊢
      omega
    exact not_gasBounded_of_max hone h.1 hlt hb
  · rename_i hmax
    refine ⟨fun hb => ?_, gasBounded_of_units hmax hfit⟩
    by_contra h
    rw [not_or, Bool.not_eq_false] at h
    exact not_gasBounded_of_units hmax hfit h.1 h.2 hb

/-- An execution with a million gas under the default multiplier is bounded. -/
theorem vm_gas_bounded_execute :
    newDefaultWasmGasRegister.c.gasMultiplier.toNat * (1000000 : UInt64).toNat < 2 ^ 64 ∧
      GasBounded newDefaultWasmGasRegister .execute 1000000 100000 :=
  ⟨by decide, (vm_gas_bounded_iff newDefaultWasmGasRegister .execute 1000000 100000
    (by decide)).mpr (by decide)⟩

/-! ### A packet that spends too much -/

/-- A contract that reads its storage once and then computes, whatever it is called with. -/
def spendingRun : ContractRun (Option (Except String (ContractResponse Unit))) :=
  .get [0] fun _ => .compute 139998999 (.ret (some (.ok ⟨[], [], [], none⟩)))

/-- A chain with such contracts; an access to storage costs 1000. -/
def spendingKeeper : Keeper Unit Unit :=
  { plainKeeper Unit with wasmVM := { plainVM Unit with call := fun _ _ _ _ => spendingRun } }

/-- The contract. -/
def spendingContract : AccAddress := plainModuleAddress []

/-- The world with the contract, on a meter with the limit 61000. -/
def spendingWorld (consumed : UInt64) : World (Multistore Unit) Shared :=
  plainWorld ((WasmStore.empty.storeCodeInfo 1 ⟨[7], "", allowEverybody⟩).storeContractInfo
    spendingContract ⟨1, "", "", "", ⟨0, 0⟩, "port", "port2", none⟩) (.basic 61000 consumed)

/-- The packet. -/
def spendingPacket : IBCPacketReceiveMsg where
  payload := []
  expectedJSONSize := 0
  packet := ⟨[], ⟨"", ""⟩, ⟨"", ""⟩, 0, none, 0⟩

/-- **A received packet spends twice what is left.**  Setting the contract up costs 60000, so that
1000 is left, and the VM gets that in its own unit.  The contract spends all of it on its storage
and 999 more on computation, and the VM does not stop it; only the charge afterwards fails. -/
theorem vm_gas_unbounded_packet :
    EntryPoint.ibcPacketReceive.vmMeter = .raw ∧
    (spendingKeeper.setup 1 [7] (.respond (.ibcPacketReceive spendingPacket))
      (spendingWorld 0)).2.gas = .basic 61000 60000 ∧
    runtimeGasForContract spendingKeeper.gasRegister (.basic 61000 60000) = .ok 140000000 ∧
    (∃ out, (spendingKeeper.vmEnv plainContext spendingContract).exec
        ⟨.raw, 140000000, VMMeter.raw.reading spendingKeeper.gasRegister (.basic 61000 60000)⟩
        spendingRun 0 (spendingWorld 60000) = (.ok ⟨.ok out, 139998999⟩, spendingWorld 61000)) ∧
    1000 + (spendingKeeper.gasRegister.fromWasmVMGas (UInt64.ofNat 139998999)).toNat = 1999 ∧
    ∀ handler, ∃ w', (spendingKeeper.onRecvPacket plainContext spendingContract spendingPacket).run
      handler (spendingWorld 0) = (.error (.panic (.outOfGas "wasm contract")), w') ∧
        w'.gas = .basic 61000 61999 := by
  refine ⟨rfl, rfl, rfl, ⟨_, rfl⟩, rfl, fun handler => ⟨_, rfl, rfl⟩⟩

end Wasmd
