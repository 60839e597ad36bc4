import Wasmd.Keeper.Dispatch

/-!
# Gas of nested submessages

A submessage may carry a gas limit of its own.  It then runs on a meter with that limit, and the
parent is charged afterwards.

* `Metered` — what is asked of a messenger and a replyer: the limit of the meter they are given
  stays, and whoever returns normally has not run past the limit.
* `Contained` — what holds where a submessage is dispatched: no subtraction wraps, and a limited
  submessage costs the parent what it used, or its limit if it ran out.
* `contained_of_metered` — a metered messenger is contained on every meter within its limit.
-/

namespace Wasmd

open ByteStore Effects Gas

variable {μ ν C α β : Type}

/-! ## Metered calls -/

/-- The call panicked. -/
def Panicked (r : Except (Failure GoError) α) : Prop := ∃ p, r = .error (.panic p)

/-- The call only charges the meter it is given, and does not swallow an out-of-gas panic: from a
meter within its limit, whoever returns normally leaves it within its limit. -/
def Metered (x : CtxM μ ν α) : Prop :=
  ∀ w r w', w.gas.Within → x w = (r, w') →
    w'.gas.limit = w.gas.limit ∧ (¬ Panicked r → w'.gas.Within)

theorem not_panicked_ok (a : α) : ¬ Panicked (.ok a : Except (Failure GoError) α) := by
  rintro ⟨p, hp⟩
  cases hp

theorem not_panicked_error (e : GoError) :
    ¬ Panicked (.error (.error e) : Except (Failure GoError) α) := by
  rintro ⟨p, hp⟩
  cases hp

theorem Metered.pure (a : α) : Metered (Pure.pure a : CtxM μ ν α) := by
  intro w r w' hw h
  cases h
  exact ⟨rfl, fun _ => hw⟩

theorem Metered.failWith (e : GoError) : Metered (GoM.failWith e : CtxM μ ν α) := by
  intro w r w' hw h
  cases h
  exact ⟨rfl, fun _ => hw⟩

theorem Metered.ofExcept (x : Except (Failure GoError) α) :
    Metered (GoM.ofExcept x : CtxM μ ν α) := by
  intro w r w' hw h
  cases h
  exact ⟨rfl, fun _ => hw⟩

theorem Metered.bind {x : CtxM μ ν α} {f : α → CtxM μ ν β} (hx : Metered x)
    (hf : ∀ a, Metered (f a)) : Metered (x >>= f) := by
  intro w r w' hw h
  cases hrun : x w with
  | mk res w₁ =>
      obtain ⟨hlim, hin⟩ := hx w res w₁ hw hrun
      cases res with
      | ok a =>
          rw [GoM.bind_run_ok hrun] at h
          obtain ⟨hlim', hin'⟩ := hf a w₁ r w' (hin (not_panicked_ok a)) h
          exact ⟨hlim'.trans hlim, hin'⟩
      | error f =>
          rw [GoM.bind_run_error hrun] at h
          cases h
          refine ⟨hlim, fun hp => hin ?_⟩
          rintro ⟨p, hpe⟩
          cases hpe
          exact hp ⟨p, rfl⟩

theorem Metered.mapError {f : GoError → GoError} {x : CtxM μ ν α} (hx : Metered x) :
    Metered (GoM.mapError f x) := by
  intro w r w' hw h
  cases hrun : x w with
  | mk res w₁ =>
      obtain ⟨hlim, hin⟩ := hx w res w₁ hw hrun
      unfold GoM.mapError at h
      rw [hrun] at h
      match res, h, hin with
      | .ok a, h, hin =>
          cases h
          exact ⟨hlim, hin⟩
      | .error (.error e), h, hin =>
          cases h
          exact ⟨hlim, fun _ => hin (not_panicked_error e)⟩
      | .error (.panic p), h, hin =>
          cases h
          exact ⟨hlim, hin⟩

/-! ## What is left -/

/-- **The subtraction does not wrap** on a meter within its limit. -/
theorem toNat_gasRemaining {m : GasMeter} (h : m.Within) :
    (MessageDispatcher.gasRemaining m).toNat = m.limit.toNat - m.gasConsumed.toNat :=
  UInt64.toNat_sub_of_le _ _ h

/-- A charge that is not above what is left goes through. -/
theorem consumeGas_of_le_remaining {m : GasMeter} (amount : UInt64) (descriptor : String)
    (hle : m.gasConsumed.toNat + amount.toNat ≤ m.limit.toNat) :
    m.consumeGas amount descriptor = (.ok (), m.withConsumed (m.gasConsumed + amount)) ∧
      (m.withConsumed (m.gasConsumed + amount)).gasConsumed.toNat =
        m.gasConsumed.toNat + amount.toNat ∧
      (m.withConsumed (m.gasConsumed + amount)).Within := by
  have hlim := m.limit.toNat_lt
  have hfit : m.gasConsumed.toNat + amount.toNat < 2 ^ 64 := by omega
  have hrun := GasMeter.consumeGas_run descriptor hfit hle
  exact ⟨hrun, GasMeter.gasConsumed_of_consumeGas_ok hrun, (GasMeter.consumeGas_ok_iff.mp hrun).2.2⟩

/-- A limit below what is left, as numbers. -/
theorem add_lt_limit {m : GasMeter} (h : m.Within) {g : UInt64}
    (hg : g < MessageDispatcher.gasRemaining m) :
    m.gasConsumed.toNat + g.toNat < m.limit.toNat := by
  have hlt := UInt64.lt_iff_toNat_lt.mp hg
  have hrem := toNat_gasRemaining h
  omega

/-- `ctx.GasMeter().ConsumeGas`. -/
def consumeGas (amount : UInt64) (descriptor : String) : CtxM μ ν Unit := fun w =>
  ((w.gas.consumeGas amount descriptor).1.mapError .panic,
    { w with gas := (w.gas.consumeGas amount descriptor).2 })

theorem consumeGas_ok_iff {amount : UInt64} {descriptor : String} {u : Unit} {w w' : World μ ν} :
    (consumeGas amount descriptor : CtxM μ ν Unit) w = (.ok u, w') ↔
      ∃ m, w.gas.consumeGas amount descriptor = (.ok (), m) ∧ w' = { w with gas := m } := by
  unfold consumeGas
  rcases w.gas.consumeGas amount descriptor with ⟨_ | _, m⟩ <;> simp [Except.mapError, eq_comm]

/-- A charge to the meter of the context is metered. -/
theorem metered_consumeGas (amount : UInt64) (descriptor : String) :
    Metered (consumeGas amount descriptor : CtxM μ ν Unit) := by
  intro w r w' _ h
  cases h
  refine ⟨GasMeter.consumeGas_limit _ _ _, fun hp => ?_⟩
  cases hrun : w.gas.consumeGas amount descriptor with
  | mk res m =>
      rw [hrun] at hp
      cases res with
      | ok u => exact (GasMeter.consumeGas_ok_iff.mp hrun).2.2
      | error p => exact absurd ⟨p, rfl⟩ hp

namespace MessageDispatcher

variable {d : MessageDispatcher μ ν C} {addr : AccAddress} {ibcPort : String}

/-! ## A limited submessage -/

/-- A message that returned normally from its own meter used no more than its limit. -/
theorem limited_le {msg : C} (hm : Metered (d.dispatchMsg addr ibcPort msg)) {w sub : World μ ν}
    {g : UInt64} {res : Except (Failure GoError) DispatchResult}
    (hrun : d.dispatchMsg addr ibcPort msg { w with gas := .newGasMeter g } = (res, sub))
    (hres : ¬ Panicked res) : sub.gas.gasConsumed.toNat ≤ g.toNat := by
  have hstart : ({ w with gas := GasMeter.newGasMeter g } : World μ ν).gas.Within :=
    GasMeter.within_newGasMeter g
  obtain ⟨hlim, hin⟩ := hm { w with gas := .newGasMeter g } res sub hstart hrun
  have hlim' : sub.gas.limit = g := hlim
  have hle : sub.gas.gasConsumed ≤ sub.gas.limit := hin hres
  rw [hlim'] at hle
  exact UInt64.le_iff_toNat_le.mp hle

/-! The four ways through `dispatchMsgWithGasLimit`, without any arithmetic. -/

theorem limitedBody_of_panic {msg : C} {w sub : World μ ν} {g : UInt64} {p : Panic}
    (hrun : d.dispatchMsg addr ibcPort msg { w with gas := .newGasMeter g } =
      (.error (.panic p), sub)) :
    d.limitedBody addr ibcPort msg g w = (.error (.panic p), sub, w.gas) := by
  unfold limitedBody
  rw [hrun]

theorem limitedBody_of_charged {msg : C} {w sub : World μ ν} {g : UInt64} {parent : GasMeter}
    {res : Except (Failure GoError) DispatchResult}
    (hrun : d.dispatchMsg addr ibcPort msg { w with gas := .newGasMeter g } = (res, sub))
    (hres : ¬ Panicked res)
    (hcharge : w.gas.consumeGas sub.gas.gasConsumed "From limited Sub-Message" =
      (.ok (), parent)) :
    d.limitedBody addr ibcPort msg g w = (res, sub, parent) := by
  unfold limitedBody
  rw [hrun]
  match res, hres with
  | .ok r, _ => simp only [hcharge]
  | .error (.error e), _ => simp only [hcharge]
  | .error (.panic p), hres => exact absurd ⟨p, rfl⟩ hres

theorem chargeThen_of_charged {w : World μ ν} {m m' : GasMeter} {amount : UInt64}
    {descriptor : String} (h : m.consumeGas amount descriptor = (.ok (), m'))
    (failure : Failure GoError) :
    chargeThen w m amount descriptor failure = (.error failure, { w with gas := m' }) := by
  unfold chargeThen
  rw [h]

/-- The charge made while a panic is handled ends in a panic, whether it goes through or not. -/
theorem chargeThen_panic (w : World μ ν) (m : GasMeter) (amount : UInt64) (descriptor : String)
    (p : Panic) :
    ∃ q, chargeThen w m amount descriptor (.panic p) =
      (.error (.panic q), { w with gas := (m.consumeGas amount descriptor).2 }) := by
  unfold chargeThen
  split
  · rename_i m' hc
    exact ⟨p, by rw [hc]⟩
  · rename_i q m' hc
    exact ⟨q, by rw [hc]⟩

/-- **Normal return**: the parent is charged what the limited meter consumed. -/
theorem withGasLimit_of_normal {msg : C} (hm : Metered (d.dispatchMsg addr ibcPort msg))
    {w sub : World μ ν} {g : UInt64} {res : Except (Failure GoError) DispatchResult}
    (hw : w.gas.Within) (hg : g < gasRemaining w.gas)
    (hrun : d.dispatchMsg addr ibcPort msg { w with gas := .newGasMeter g } = (res, sub))
    (hres : ¬ Panicked res) :
    d.dispatchMsgWithGasLimit addr ibcPort msg g w =
      (res, { sub with gas := w.gas.withConsumed (w.gas.gasConsumed + sub.gas.gasConsumed) }) := by
  have hle := limited_le hm hrun hres
  have hlt := add_lt_limit hw hg
  have hcharge := (consumeGas_of_le_remaining sub.gas.gasConsumed "From limited Sub-Message"
    (show w.gas.gasConsumed.toNat + _ ≤ w.gas.limit.toNat by omega)).1
  have hbody := limitedBody_of_charged hrun hres hcharge
  unfold dispatchMsgWithGasLimit
  rw [hbody]
  match res, hres with
  | .ok r, _ => rfl
  | .error (.error e), _ => rfl
  | .error (.panic p), hres => exact absurd ⟨p, rfl⟩ hres

/-- **Out of gas**: the parent is charged the limit and told by an error. -/
theorem withGasLimit_of_outOfGas {msg : C} {w sub : World μ ν} {g : UInt64} {text : String}
    (hw : w.gas.Within) (hg : g < gasRemaining w.gas)
    (hrun : d.dispatchMsg addr ibcPort msg { w with gas := .newGasMeter g } =
      (.error (.panic (.outOfGas text)), sub)) :
    d.dispatchMsgWithGasLimit addr ibcPort msg g w =
      (.error (.error (errOutOfGas.wrap "SubMsg hit gas limit")),
        { sub with gas := w.gas.withConsumed (w.gas.gasConsumed + g) }) := by
  have hlt := add_lt_limit hw hg
  have hcharge := (consumeGas_of_le_remaining g "Sub-Message OutOfGas panic"
    (show w.gas.gasConsumed.toNat + _ ≤ w.gas.limit.toNat by omega)).1
  unfold dispatchMsgWithGasLimit
  rw [limitedBody_of_panic hrun]
  exact chargeThen_of_charged hcharge _

/-- Any other panic is raised again, after a charge that may itself panic. -/
theorem withGasLimit_of_panic {msg : C} {w sub : World μ ν} {g : UInt64} {p : Panic}
    (hp : ∀ text, p ≠ .outOfGas text)
    (hrun : d.dispatchMsg addr ibcPort msg { w with gas := .newGasMeter g } =
      (.error (.panic p), sub)) :
    ∃ q, d.dispatchMsgWithGasLimit addr ibcPort msg g w =
      (.error (.panic q), { sub with
        gas := (w.gas.consumeGas sub.gas.gasConsumed "From limited Sub-Message").2 }) := by
  unfold dispatchMsgWithGasLimit
  rw [limitedBody_of_panic hrun]
  cases p with
  | outOfGas text => exact absurd rfl (hp text)
  | gasOverflow text => exact chargeThen_panic _ _ _ _ _
  | message text => exact chargeThen_panic _ _ _ _ _

/-- What holds where a submessage is dispatched from the world `w`. -/
structure Contained (d : MessageDispatcher μ ν C) (addr : AccAddress) (ibcPort : String)
    (msg : SubMsg C) (w : World μ ν) : Prop where
  /-- The subtraction `Limit() - GasConsumed()` is one of numbers. -/
  no_wrap : w.gas.gasConsumed.toNat ≤ w.gas.limit.toNat ∧
    (gasRemaining w.gas).toNat = w.gas.limit.toNat - w.gas.gasConsumed.toNat
  /-- A limited submessage that returned normally costs the parent what its meter consumed, which
  is at most its limit, and the charge leaves the parent within its own. -/
  normal : ∀ g, msg.gasLimit = some g → g < gasRemaining w.gas → ∀ res sub,
    d.dispatchMsg addr ibcPort msg.msg { w with gas := .newGasMeter g } = (res, sub) →
    ¬ Panicked res → sub.gas.gasConsumed.toNat ≤ g.toNat ∧
      ∃ w', d.dispatchLimited addr ibcPort msg w = (res, w') ∧
        w'.gas.gasConsumed.toNat = w.gas.gasConsumed.toNat + sub.gas.gasConsumed.toNat ∧
        w'.gas.Within
  /-- One that ran out of gas costs the parent its limit and is an error, not a panic. -/
  outOfGas : ∀ g, msg.gasLimit = some g → g < gasRemaining w.gas → ∀ text sub,
    d.dispatchMsg addr ibcPort msg.msg { w with gas := .newGasMeter g } =
      (.error (.panic (.outOfGas text)), sub) →
    ∃ w', d.dispatchLimited addr ibcPort msg w =
        (.error (.error (errOutOfGas.wrap "SubMsg hit gas limit")), w') ∧
      w'.gas.gasConsumed.toNat = w.gas.gasConsumed.toNat + g.toNat ∧ w'.gas.Within

theorem dispatchLimited_of_lt {msg : SubMsg C} {w : World μ ν} {g : UInt64}
    (hl : msg.gasLimit = some g) (hg : g < gasRemaining w.gas) :
    d.dispatchLimited addr ibcPort msg w = d.dispatchMsgWithGasLimit addr ibcPort msg.msg g w := by
  simp only [dispatchLimited, hl, if_pos hg]

/-- **A metered messenger is contained.** -/
theorem contained_of_metered {msg : SubMsg C} (hm : Metered (d.dispatchMsg addr ibcPort msg.msg))
    {w : World μ ν} (hw : w.gas.Within) : Contained d addr ibcPort msg w := by
  refine ⟨⟨UInt64.le_iff_toNat_le.mp hw, toNat_gasRemaining hw⟩, ?_, ?_⟩
  · intro g hl hg res sub hrun hres
    have hle := limited_le hm hrun hres
    have hlt := add_lt_limit hw hg
    obtain ⟨-, hsum, hin⟩ := consumeGas_of_le_remaining sub.gas.gasConsumed ""
      (show w.gas.gasConsumed.toNat + _ ≤ w.gas.limit.toNat by omega)
    have hstep := withGasLimit_of_normal hm hw hg hrun hres
    rw [← dispatchLimited_of_lt hl hg] at hstep
    exact ⟨hle, _, hstep, hsum, hin⟩
  · intro g hl hg text sub hrun
    have hlt := add_lt_limit hw hg
    obtain ⟨-, hsum, hin⟩ := consumeGas_of_le_remaining g ""
      (show w.gas.gasConsumed.toNat + _ ≤ w.gas.limit.toNat by omega)
    have hstep := withGasLimit_of_outOfGas hw hg hrun
    rw [← dispatchLimited_of_lt hl hg] at hstep
    exact ⟨_, hstep, hsum, hin⟩

/-! ## The dispatcher is metered -/

/-- A limited message treats the parent's meter as a metered call does, however it ends. -/
theorem withGasLimit_metered {msg : C} (hm : Metered (d.dispatchMsg addr ibcPort msg))
    {w w' : World μ ν} {g : UInt64} {r : Except (Failure GoError) DispatchResult}
    (hw : w.gas.Within) (hg : g < gasRemaining w.gas)
    (h : d.dispatchMsgWithGasLimit addr ibcPort msg g w = (r, w')) :
    w'.gas.limit = w.gas.limit ∧ (¬ Panicked r → w'.gas.Within) := by
  have hlt := add_lt_limit hw hg
  cases hrun : d.dispatchMsg addr ibcPort msg { w with gas := .newGasMeter g } with
  | mk res sub =>
      by_cases hres : Panicked res
      · obtain ⟨p, rfl⟩ := hres
        by_cases hp : ∃ text, p = .outOfGas text
        · obtain ⟨text, rfl⟩ := hp
          rw [withGasLimit_of_outOfGas hw hg hrun] at h
          cases h
          obtain ⟨-, -, hin⟩ := consumeGas_of_le_remaining (m := w.gas) g "" (by omega)
          exact ⟨GasMeter.limit_withConsumed _ _, fun _ => hin⟩
        · obtain ⟨q, hq⟩ := withGasLimit_of_panic (fun text he => hp ⟨text, he⟩) hrun
          rw [hq] at h
          cases h
          exact ⟨GasMeter.consumeGas_limit _ _ _, fun hq => absurd ⟨q, rfl⟩ hq⟩
      · have hsub := limited_le hm hrun hres
        rw [withGasLimit_of_normal hm hw hg hrun hres] at h
        cases h
        obtain ⟨-, -, hin⟩ := consumeGas_of_le_remaining (m := w.gas) sub.gas.gasConsumed ""
          (by omega)
        exact ⟨GasMeter.limit_withConsumed _ _, fun _ => hin⟩

theorem metered_dispatchLimited (msg : SubMsg C)
    (hm : Metered (d.dispatchMsg addr ibcPort msg.msg)) :
    Metered (d.dispatchLimited addr ibcPort msg) := by
  intro w r w' hw h
  cases hl : msg.gasLimit with
  | none =>
      simp only [dispatchLimited, hl] at h
      exact hm w r w' hw h
  | some g =>
      by_cases hg : g < gasRemaining w.gas
      · rw [dispatchLimited_of_lt hl hg] at h
        exact withGasLimit_metered hm hw hg h
      · simp only [dispatchLimited, hl, if_neg hg] at h
        exact hm w r w' hw h

theorem metered_sandbox (msg : SubMsg C) (hm : Metered (d.dispatchMsg addr ibcPort msg.msg)) :
    Metered (d.sandbox addr ibcPort msg) := by
  intro w r w' hw h
  cases hrun : d.dispatchLimited addr ibcPort msg { w with events := [] } with
  | mk res w₁ =>
      obtain ⟨hlim, hin⟩ := metered_dispatchLimited msg hm { w with events := [] } res w₁ hw hrun
      unfold sandbox at h
      rw [hrun] at h
      match res, h, hin with
      | .ok a, h, hin =>
          cases h
          exact ⟨hlim, fun _ => hin (not_panicked_ok a)⟩
      | .error (.error e), h, hin =>
          cases h
          exact ⟨hlim, fun _ => hin (not_panicked_error e)⟩
      | .error (.panic p), h, hin =>
          cases h
          exact ⟨hlim, fun hp => absurd ⟨p, rfl⟩ hp⟩

end MessageDispatcher

end Wasmd
