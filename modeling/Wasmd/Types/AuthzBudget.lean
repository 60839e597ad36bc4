import Wasmd.Types.Authz

/-!
# What an authorization can spend

A potential argument over runs of an authorization.  The budget of a contract is what its
grants still allow: amounts for each denomination, and calls.

* `Limit.accept_spends` — a limit pays for what it lets through.
* `acceptLoop_spends` — so does a list of grants.  The new list also passes the
  validation the source repeats as a sanity check; that check stands after the list was
  changed in place, so an error there would not have left the authorization as it was.
* `budget_never_exceeded` — no run spends more than the initial budget.
-/

namespace Wasmd
namespace Authz

open ByteStore Effects Gas Coins

variable {lib : GoLib} {codec : AddressCodec}

/-! ## Limits -/

/-- The amount of a denomination a limit still allows. -/
def Limit.fundsOf (d : String) : Limit → Int
  | .maxFunds amounts => amountOf amounts d
  | .combined _ amounts => amountOf amounts d
  | _ => 0

/-- The calls a limit still allows, if it counts them. -/
def Limit.callsOf : Limit → Nat
  | .maxCalls n => n.toNat
  | .combined n _ => n.toNat
  | _ => 0

/-- The limit counts calls. -/
def Limit.Counts : Limit → Prop
  | .maxCalls _ => True
  | .combined _ _ => True
  | _ => False

/-- What is left of a limit after it accepted a message. -/
def LimitResult.left (r : LimitResult) (l : Limit) : Option Limit :=
  if r.deleteLimit then none else some (r.updateLimit.getD l)

/-- A limit `l` let a message with these funds through and `l'` is left of it. -/
structure Pays (l : Limit) (funds : CoinSet) (l' : Option Limit) : Prop where
  funds_le : ∀ d, amountOf funds d + (l'.elim 0 (Limit.fundsOf d)) ≤ l.fundsOf d
  calls_lt : l.Counts → l'.elim 0 Limit.callsOf < l.callsOf
  valid : ∀ k, l' = some k → k.validateBasic = .ok ()
  counts : ∀ k, l' = some k → l.Counts → k.Counts

theorem validateBasic_maxFunds_iff {amounts : CoinSet} :
    (Limit.maxFunds amounts).validateBasic = .ok () ↔ Valid amounts ∧ isZero amounts = false := by
  rw [← validate_eq_none_iff]
  cases h : Coins.validate amounts <;> cases hz : isZero amounts <;>
    simp [Limit.validateBasic, h, hz]

theorem validateBasic_combined_iff {n : UInt64} {amounts : CoinSet} :
    (Limit.combined n amounts).validateBasic = .ok () ↔
      n ≠ 0 ∧ isZero amounts = false ∧ Valid amounts := by
  rw [← validate_eq_none_iff]
  by_cases hn : n = 0 <;> cases h : Coins.validate amounts <;> cases hz : isZero amounts <;>
    simp [Limit.validateBasic, hn, h, hz]

theorem amountOf_of_empty {funds : CoinSet} (h : Coins.empty funds = true) (d : String) :
    amountOf funds d = 0 := by
  rw [List.isEmpty_iff.mp h, amountOf_nil]

theorem toNat_pred {n : UInt64} (h : n ≠ 0) : (n - 1).toNat + 1 = n.toNat := by
  have hpos : 1 ≤ n.toNat := Nat.pos_of_ne_zero fun h0 => h (UInt64.toNat_inj.mp h0)
  have hle : (1 : UInt64) ≤ n := UInt64.le_iff_toNat_le.mpr hpos
  rw [UInt64.toNat_sub_of_le _ _ hle, UInt64.toNat_one]
  omega

theorem pred_ne_zero {n : UInt64} (h0 : n ≠ 0) (h1 : n ≠ 1) : n - 1 ≠ 0 := by
  intro h
  have hn := toNat_pred h0
  rw [h, UInt64.toNat_zero] at hn
  exact h1 (UInt64.toNat_inj.mp hn.symm)

theorem pays_maxCalls {n : UInt64} {funds : CoinSet} {r : LimitResult}
    (h : (Limit.maxCalls n).accept funds = .ok r) (ha : r.accepted = true) :
    Pays (.maxCalls n) funds (r.left (.maxCalls n)) := by
  simp only [Limit.accept] at h
  split_ifs at h with hempty h0 h1
  · -- the last call: nothing is left
    cases h
    refine ⟨fun d => ?_, fun _ => ?_, by simp [LimitResult.left], by simp [LimitResult.left]⟩
    · simp [LimitResult.left, amountOf_of_empty hempty, Limit.fundsOf]
    · simp [LimitResult.left, Limit.callsOf, h1]
  · cases h
    have hpred := toNat_pred h0
    refine ⟨fun d => ?_, fun _ => ?_, ?_, ?_⟩
    · simp [LimitResult.left, amountOf_of_empty hempty, Limit.fundsOf]
    · simp only [LimitResult.left, Option.getD_some, Option.elim_some, Limit.callsOf,
        Bool.false_eq_true, if_false]
      omega
    · rintro k ⟨⟩
      simp [Limit.validateBasic, pred_ne_zero h0 h1]
    · rintro k ⟨⟩ _
      trivial
  · cases h
    cases ha

theorem pays_maxFunds {amounts funds : CoinSet} {r : LimitResult}
    (hv : (Limit.maxFunds amounts).validateBasic = .ok ()) (hf : Valid funds)
    (h : (Limit.maxFunds amounts).accept funds = .ok r) (ha : r.accepted = true) :
    Pays (.maxFunds amounts) funds (r.left (.maxFunds amounts)) := by
  obtain ⟨hval, -⟩ := validateBasic_maxFunds_iff.mp hv
  simp only [Limit.accept] at h
  split_ifs at h with hempty hle
  · cases h
    refine ⟨fun d => ?_, fun hc => hc.elim, ?_, fun _ _ hc => hc.elim⟩
    · simp [LimitResult.left, amountOf_of_empty hempty, Limit.fundsOf]
    · rintro k ⟨⟩
      exact hv
  · obtain ⟨left, hsub, hleft, hamount⟩ := sub_of_covered hval hf hle
    rw [hsub] at h
    simp only at h
    split_ifs at h with hz
    · cases h
      refine ⟨fun d => ?_, fun hc => hc.elim, by simp [LimitResult.left], fun _ _ hc => hc.elim⟩
      have := hleft.amountOf_nonneg d
      rw [hamount] at this
      simp only [LimitResult.left, if_true, Option.elim_none, Limit.fundsOf]
      omega
    · cases h
      refine ⟨fun d => ?_, fun hc => hc.elim, ?_, fun _ _ hc => hc.elim⟩
      · simp [LimitResult.left, Limit.fundsOf, hamount]
      · rintro k ⟨⟩
        exact validateBasic_maxFunds_iff.mpr ⟨hleft, by simpa using hz⟩
  · cases h
    cases ha

theorem pays_combined {n : UInt64} {amounts funds : CoinSet} {r : LimitResult}
    (hv : (Limit.combined n amounts).validateBasic = .ok ()) (hf : Valid funds)
    (h : (Limit.combined n amounts).accept funds = .ok r) (ha : r.accepted = true) :
    Pays (.combined n amounts) funds (r.left (.combined n amounts)) := by
  obtain ⟨h0, -, hval⟩ := validateBasic_combined_iff.mp hv
  have hpred := toNat_pred h0
  simp only [Limit.accept] at h
  split_ifs at h with hle h1
  · cases h
    refine ⟨fun d => ?_, fun _ => ?_, by simp [LimitResult.left], by simp [LimitResult.left]⟩
    · have := (isAllGTE_iff hval hf).mp hle d
      simpa [LimitResult.left, Limit.fundsOf] using this
    · simp [LimitResult.left, Limit.callsOf, h1]
  · obtain ⟨left, hsub, hleft, hamount⟩ := sub_of_covered hval hf hle
    rw [hsub] at h
    simp only at h
    split_ifs at h with hz
    · cases h
      refine ⟨fun d => ?_, fun _ => ?_, by simp [LimitResult.left], by simp [LimitResult.left]⟩
      · have := hleft.amountOf_nonneg d
        rw [hamount] at this
        simp only [LimitResult.left, if_true, Option.elim_none, Limit.fundsOf]
        omega
      · simp only [LimitResult.left, if_true, Option.elim_none, Limit.callsOf]
        omega
    · rw [newCoins_of_valid hleft] at h
      cases h
      refine ⟨fun d => ?_, fun _ => ?_, ?_, ?_⟩
      · simp [LimitResult.left, Limit.fundsOf, hamount]
      · simp only [LimitResult.left, Option.getD_some, Option.elim_some, Limit.callsOf,
          Bool.false_eq_true, if_false]
        omega
      · rintro k ⟨⟩
        exact validateBasic_combined_iff.mpr ⟨pred_ne_zero h0 h1, by simpa using hz, hleft⟩
      · rintro k ⟨⟩ _
        trivial
  · cases h
    cases ha

/-- **A limit pays for what it lets through.** -/
theorem Limit.accept_spends {l : Limit} {funds : CoinSet} {r : LimitResult}
    (hv : l.validateBasic = .ok ()) (hf : Valid funds) (h : l.accept funds = .ok r)
    (ha : r.accepted = true) : Pays l funds (r.left l) := by
  cases l with
  | undefined => cases h
  | maxCalls n => exact pays_maxCalls h ha
  | maxFunds amounts => exact pays_maxFunds hv hf h ha
  | combined n amounts => exact pays_combined hv hf h ha

/-! ## Lists of grants -/

theorem ContractGrant.validateBasic_ok_iff {g : ContractGrant} :
    g.validateBasic lib codec = .ok () ↔
      (∃ a, decodeAddress codec "contract" g.contract = .ok a) ∧ g.limit.validateBasic = .ok () ∧
        g.filter.validateBasic lib = .ok () := by
  unfold ContractGrant.validateBasic
  cases decodeAddress codec "contract" g.contract <;> cases g.limit.validateBasic <;>
    cases g.filter.validateBasic lib <;> simp [Except.mapError, bind, Except.bind]

theorem validateGrantsFrom_ok_iff {grants : List ContractGrant} {i : Nat} :
    validateGrantsFrom lib codec i grants = .ok () ↔
      ∀ g ∈ grants, g.validateBasic lib codec = .ok () := by
  induction grants generalizing i with
  | nil => simp [validateGrantsFrom]
  | cons g rest ih =>
      rw [validateGrantsFrom, List.forall_mem_cons]
      cases g.validateBasic lib codec with
      | error e => simp
      | ok u => simp [ih]

/-- All grants of the list are valid. -/
def AllValid (lib : GoLib) (codec : AddressCodec) (grants : List ContractGrant) : Prop :=
  ∀ g ∈ grants, g.validateBasic lib codec = .ok ()

theorem validateGrants_ok_iff {grants : List ContractGrant} :
    validateGrants lib codec grants = .ok () ↔ grants ≠ [] ∧ AllValid lib codec grants := by
  unfold validateGrants AllValid
  split
  · rename_i h
    simp [List.length_eq_zero_iff.mp h]
  · rename_i h
    rw [validateGrantsFrom_ok_iff]
    have hne : grants ≠ [] := fun hnil => h (by simp [hnil])
    exact ⟨fun hall => ⟨hne, hall⟩, fun hall => hall.2⟩

/-- The grants after a response: none once the authorization is deleted. -/
def AcceptResponse.grantsAfter (r : AcceptResponse) (grants : List ContractGrant) :
    List ContractGrant :=
  if r.delete then [] else r.updated.getD grants

/-- One grant of the list paid for a message to `contract` and the others are as they were. -/
structure GrantPays (contract : String) (funds : CoinSet) (grants grants' : List ContractGrant) :
    Prop where
  split : ∃ pre g post l', grants = pre ++ g :: post ∧ g.contract = contract ∧
    Pays g.limit funds l' ∧
    grants' = pre ++ (l'.toList.map fun l => { g with limit := l }) ++ post

/-- **The sanity check passes.**  Replacing the limit of a valid grant by a valid one, or
dropping the grant, leaves valid grants. -/
theorem allValid_replace {pre post : List ContractGrant} {g : ContractGrant} {funds : CoinSet}
    {l' : Option Limit} (h : AllValid lib codec (pre ++ g :: post)) (hp : Pays g.limit funds l') :
    AllValid lib codec (pre ++ (l'.toList.map fun l => { g with limit := l }) ++ post) := by
  intro x hx
  simp only [List.mem_append, List.mem_map, Option.mem_toList] at hx
  rcases hx with (hx | ⟨l, hl, rfl⟩) | hx
  · exact h x (by simp [hx])
  · have hg := ContractGrant.validateBasic_ok_iff.mp (h g (by simp))
    exact ContractGrant.validateBasic_ok_iff.mpr ⟨hg.1, hp.valid l hl, hg.2.2⟩
  · exact h x (by simp [hx])

theorem respondUpdated_of_valid {grants : List ContractGrant} (hne : grants ≠ [])
    (h : AllValid lib codec grants) (m : GasMeter) :
    respondUpdated lib codec grants m = (.ok ⟨true, false, some grants⟩, m) := by
  simp [respondUpdated, validateGrants_ok_iff.mpr ⟨hne, h⟩]

/-- The grant that applies pays, and the response carries the list without what it paid. -/
theorem updateLimits_spends {before after : List ContractGrant} {g : ContractGrant}
    {funds : CoinSet} {result : LimitResult} {m m' : GasMeter} {r : AcceptResponse}
    (hv : AllValid lib codec (before ++ g :: after)) (hp : Pays g.limit funds (result.left g.limit))
    (h : updateLimits lib codec before g after result m = (.ok r, m')) :
    r.grantsAfter (before ++ g :: after) =
      before ++ ((result.left g.limit).toList.map fun l => { g with limit := l }) ++ after := by
  have hnew := allValid_replace hv hp
  unfold updateLimits at h
  by_cases hdel : result.deleteLimit = true
  · rw [if_pos hdel] at h
    simp only [LimitResult.left, hdel, if_true, Option.toList_none, List.map_nil,
      List.append_nil] at hnew ⊢
    split at h
    · rename_i hlen
      obtain ⟨rfl, -⟩ := GoM.pure_ok_iff.mp h
      exact (List.length_eq_zero_iff.mp hlen).symm
    · rename_i hlen
      rw [respondUpdated_of_valid (fun hnil => hlen (by rw [hnil]; rfl)) hnew] at h
      cases h
      rfl
  · rw [if_neg hdel] at h
    simp only [LimitResult.left, if_neg hdel] at hnew ⊢
    cases hup : result.updateLimit with
    | none =>
        rw [hup] at h
        obtain ⟨rfl, -⟩ := GoM.pure_ok_iff.mp h
        simp [AcceptResponse.grantsAfter]
    | some l =>
        rw [hup] at h hnew
        simp only [Option.getD_some, Option.toList_some, List.map_cons, List.map_nil,
          List.append_assoc, List.singleton_append] at h hnew ⊢
        rw [respondUpdated_of_valid (by simp) hnew] at h
        cases h
        rfl

/-- **A list of grants pays for what it lets through.**  The induction is on the grants
still to be tried; those passed over stay in front. -/
theorem acceptLoop_spends {contract : String} {funds : CoinSet} {msg : Bytes} (hf : Valid funds) :
    ∀ (after before : List ContractGrant) {m m' : GasMeter} {r : AcceptResponse},
      AllValid lib codec (before ++ after) →
      acceptLoop lib codec contract funds msg before after m = (.ok r, m') → r.accept = true →
      GrantPays contract funds (before ++ after) (r.grantsAfter (before ++ after)) := by
  intro after
  induction after with
  | nil =>
      intro before m m' r _ h ha
      obtain ⟨rfl, -⟩ := GoM.pure_ok_iff.mp h
      cases ha
  | cons g after ih =>
      intro before m m' r hv h ha
      -- a grant that is passed over joins those in front
      have hskip : ∀ m₁, acceptLoop lib codec contract funds msg (before ++ [g]) after m₁ =
          (.ok r, m') →
          GrantPays contract funds (before ++ g :: after)
            (r.grantsAfter (before ++ g :: after)) := by
        intro m₁ h₁
        have hassoc : before ++ [g] ++ after = before ++ g :: after := by simp
        have := ih (before ++ [g]) (hassoc ▸ hv) h₁ ha
        rwa [hassoc] at this
      rw [acceptLoop] at h
      by_cases hc : g.contract = contract
      · rw [if_neg (not_not.mpr hc)] at h
        obtain ⟨result, m₁, hlim, hrest⟩ := GoM.bind_ok_iff.mp h
        obtain ⟨hl, -⟩ := GoM.ofExcept_ok_iff.mp (GoM.mapError_ok_iff.mp hlim)
        by_cases hacc : result.accepted = true
        · rw [if_neg (not_not.mpr hacc)] at hrest
          obtain ⟨ok, m₂, -, hdone⟩ := GoM.bind_ok_iff.mp hrest
          cases ok with
          | false => exact hskip m₂ hdone
          | true =>
              have hlv := (ContractGrant.validateBasic_ok_iff.mp (hv g (by simp))).2.1
              have hpays := Limit.accept_spends hlv hf hl hacc
              exact ⟨before, g, after, _, rfl, hc, hpays, updateLimits_spends hv hpays hdone⟩
        · rw [if_pos hacc] at hrest
          exact hskip m₁ hrest
      · rw [if_pos hc] at h
        exact hskip m h

/-! ## Budgets -/

/-- The amount of `d` that the grants for `c` still allow. -/
def fundsBudget (c d : String) (grants : List ContractGrant) : Int :=
  (grants.map fun g => if g.contract = c then g.limit.fundsOf d else 0).sum

/-- The calls that the grants for `c` still allow. -/
def callsBudget (c : String) (grants : List ContractGrant) : Nat :=
  (grants.map fun g => if g.contract = c then g.limit.callsOf else 0).sum

/-- Every grant for `c` counts calls. -/
def CountsFor (c : String) (grants : List ContractGrant) : Prop :=
  ∀ g ∈ grants, g.contract = c → g.limit.Counts

/-- The amount of `d` sent to `c` by the messages. -/
def sentTo (c d : String) (msgs : List Msg) : Int :=
  (msgs.map fun m => if m.contract = c then amountOf m.funds d else 0).sum

/-- The number of messages to `c`. -/
def callsTo (c : String) (msgs : List Msg) : Nat :=
  (msgs.map fun m => if m.contract = c then 1 else 0).sum

theorem GrantPays.fundsBudget_le {contract : String} {funds : CoinSet}
    {grants grants' : List ContractGrant} (h : GrantPays contract funds grants grants')
    (c d : String) :
    (if contract = c then amountOf funds d else 0) + fundsBudget c d grants' ≤
      fundsBudget c d grants := by
  obtain ⟨pre, g, post, l', rfl, rfl, hp, rfl⟩ := h.split
  have hd := hp.funds_le d
  cases l' <;> by_cases hc : g.contract = c <;>
    simp [fundsBudget, hc] at hd ⊢ <;> omega

theorem GrantPays.callsBudget_lt {contract : String} {funds : CoinSet}
    {grants grants' : List ContractGrant} (h : GrantPays contract funds grants grants')
    {c : String} (hcount : CountsFor c grants) :
    (if contract = c then 1 else 0) + callsBudget c grants' ≤ callsBudget c grants := by
  obtain ⟨pre, g, post, l', rfl, rfl, hp, rfl⟩ := h.split
  by_cases hc : g.contract = c
  · have hlt := hp.calls_lt (hcount g (by simp) hc)
    cases l' <;> simp [callsBudget, hc] at hlt ⊢ <;> omega
  · cases l' <;> simp [callsBudget, hc]

theorem GrantPays.countsFor {contract : String} {funds : CoinSet}
    {grants grants' : List ContractGrant} (h : GrantPays contract funds grants grants')
    {c : String} (hcount : CountsFor c grants) : CountsFor c grants' := by
  obtain ⟨pre, g, post, l', rfl, rfl, hp, rfl⟩ := h.split
  intro x hx hxc
  simp only [List.mem_append, List.mem_map, Option.mem_toList] at hx
  rcases hx with (hx | ⟨l, hl, rfl⟩) | hx
  · exact hcount x (by simp [hx]) hxc
  · exact hp.counts l hl (hcount g (by simp) hxc)
  · exact hcount x (by simp [hx]) hxc

theorem GrantPays.allValid {contract : String} {funds : CoinSet}
    {grants grants' : List ContractGrant} (h : GrantPays contract funds grants grants')
    (hv : AllValid lib codec grants) : AllValid lib codec grants' := by
  obtain ⟨pre, g, post, l', rfl, -, hp, rfl⟩ := h.split
  exact allValid_replace hv hp

/-! ## Runs -/

/-- The messages that reach the grants carry valid funds. -/
theorem Msg.valid_funds {msg : Msg} (h : msg.validateBasic lib codec = .ok ()) :
    Valid msg.funds := by
  cases msg with
  | execute sender contract m funds =>
      rw [← validate_eq_none_iff]
      cases hv : Coins.validate funds with
      | none => exact hv
      | some e =>
          simp only [Msg.validateBasic, hv] at h
          cases hs : decodeAddress codec "sender" sender <;>
            cases hc : decodeAddress codec "contract" contract <;>
              simp [hs, hc, bind, Except.bind] at h
  | migrate _ _ _ _ => exact validate_eq_none_iff.mp rfl
  | other => exact validate_eq_none_iff.mp rfl

theorem acceptGrantedMessage_spends {kind : Kind} {grants : List ContractGrant} {msg : Msg}
    {m m' : GasMeter} {r : AcceptResponse} (hv : AllValid lib codec grants)
    (h : acceptGrantedMessage lib codec kind grants msg m = (.ok r, m')) (ha : r.accept = true) :
    GrantPays msg.contract msg.funds grants (r.grantsAfter grants) := by
  unfold acceptGrantedMessage at h
  by_cases hk : kind.matches msg = true
  · rw [if_neg (not_not.mpr hk)] at h
    cases hp : msg.payload with
    | none =>
        rw [hp] at h
        exact absurd h GoM.failWith_ne_ok
    | some payload =>
        rw [hp] at h
        cases hvalid : msg.validateBasic lib codec with
        | error e =>
            simp only [hvalid] at h
            exact absurd h GoM.failWith_ne_ok
        | ok u =>
            simp only [hvalid] at h
            exact acceptLoop_spends (Msg.valid_funds hvalid) grants [] hv h ha
  · rw [if_pos hk] at h
    exact absurd h GoM.failWith_ne_ok

/-- One message either leaves the grants alone or is paid for. -/
theorem step_cases (kind : Kind) {grants : List ContractGrant} (hv : AllValid lib codec grants)
    (call : GasMeter × Msg) :
    step lib codec kind grants call = (false, some grants) ∨
      ∃ o, step lib codec kind grants call = (true, o) ∧
        GrantPays call.2.contract call.2.funds grants (o.getD []) := by
  unfold step
  cases hrun : acceptGrantedMessage lib codec kind grants call.2 call.1 with
  | mk res m' =>
      cases res with
      | error f => exact Or.inl rfl
      | ok r =>
          by_cases ha : r.accept = true
          · have hpays := acceptGrantedMessage_spends hv hrun ha
            right
            cases hd : r.delete <;> simp [AcceptResponse.grantsAfter, ha, hd] at hpays ⊢ <;>
              exact hpays
          · left
            simp [ha]

/-- **The budget is never exceeded.**  For every authorization that passes its validation and
every sequence of messages, what the accepted ones send to a contract is covered by the
initial amounts of its grants, and where all its grants count calls, there are no more
accepted messages than initial calls. -/
theorem budget_never_exceeded (lib : GoLib) (codec : AddressCodec) (kind : Kind)
    (grants : List ContractGrant) (hv : validateGrants lib codec grants = .ok ())
    (calls : List (GasMeter × Msg)) (c : String) :
    (∀ d, sentTo c d (accepted lib codec kind grants calls) ≤ fundsBudget c d grants) ∧
      (CountsFor c grants →
        callsTo c (accepted lib codec kind grants calls) ≤ callsBudget c grants) := by
  obtain ⟨-, hall⟩ := validateGrants_ok_iff.mp hv
  clear hv
  induction calls generalizing grants with
  | nil =>
      refine ⟨fun d => ?_, fun _ => Nat.zero_le _⟩
      refine List.sum_nonneg fun x hx => ?_
      obtain ⟨g, hg, rfl⟩ := List.mem_map.mp hx
      have hl := (ContractGrant.validateBasic_ok_iff.mp (hall g hg)).2.1
      split
      · cases hlim : g.limit with
        | undefined => exact le_rfl
        | maxCalls n => exact le_rfl
        | maxFunds amounts =>
            rw [hlim] at hl
            exact (validateBasic_maxFunds_iff.mp hl).1.amountOf_nonneg d
        | combined n amounts =>
            rw [hlim] at hl
            exact (validateBasic_combined_iff.mp hl).2.2.amountOf_nonneg d
      · exact le_rfl
  | cons call rest ih =>
      rcases step_cases kind hall call with hskip | ⟨o, hstep, hpays⟩
      · simp only [accepted, hskip]
        exact ih grants hall
      · have hafter := hpays.allValid hall
        obtain ⟨hfunds, hcalls⟩ := ih (o.getD []) hafter
        cases o with
        | none =>
            simp only [accepted, hstep]
            refine ⟨fun d => ?_, fun hcount => ?_⟩
            · simpa [sentTo, fundsBudget] using hpays.fundsBudget_le c d
            · simpa [callsTo, callsBudget] using hpays.callsBudget_lt hcount
        | some grants' =>
            simp only [accepted, hstep]
            refine ⟨fun d => ?_, fun hcount => ?_⟩
            · have hpaid := hpays.fundsBudget_le c d
              have hlater := hfunds d
              simp only [sentTo, List.map_cons, List.sum_cons, Option.getD_some] at hpaid hlater ⊢
              omega
            · have hpaid := hpays.callsBudget_lt hcount
              have hlater := hcalls (hpays.countsFor hcount)
              simp only [callsTo, List.map_cons, List.sum_cons, Option.getD_some] at hpaid hlater ⊢
              omega

/-! ### A run with two grants -/

/-- A contract with its address text. -/
def sampleTable : AddressTable where
  rows := [(AccAddress.twenty 1, "wasm1qyqszqgpqyqszqgpqyqszqgpqyqszqgpc0styh")]
  text_inj := by decide
  unmarked := by decide
  nonempty := by decide

/-- The empty object, two braces, is the one JSON text of the run. -/
def sampleLib : GoLib where
  jsonValid bz := bz = [123, 125]
  jsonObjectKeys bz := if bz = [123, 125] then some [] else none
  trimSpace s := s
  quote s := s

/-- One call with up to 50 tokens, and two calls without any. -/
def sampleGrants : List ContractGrant :=
  [⟨"wasm1qyqszqgpqyqszqgpqyqszqgpqyqszqgpc0styh", .combined 1 [⟨"utok", 50⟩], .allowAllMessages⟩,
    ⟨"wasm1qyqszqgpqyqszqgpqyqszqgpqyqszqgpc0styh", .maxCalls 2, .allowAllMessages⟩]

/-- A call of the contract with the given funds. -/
def sampleCall (funds : CoinSet) : GasMeter × Msg :=
  (.infinite 0, .execute "wasm1qyqszqgpqyqszqgpqyqszqgpqyqszqgpc0styh"
    "wasm1qyqszqgpqyqszqgpqyqszqgpqyqszqgpc0styh" (some [123, 125]) funds)

/-- Too much is refused, 30 tokens are paid by the first grant, a second payment finds no
grant, and the plain calls use up the rest: three calls and 30 of 50 tokens. -/
theorem budget_never_exceeded_two_grants :
    validateGrants sampleLib sampleTable.codec sampleGrants = .ok () ∧
      (accepted sampleLib sampleTable.codec .execution sampleGrants
        [sampleCall [⟨"utok", 60⟩], sampleCall [⟨"utok", 30⟩], sampleCall [⟨"utok", 30⟩],
          sampleCall [], sampleCall [], sampleCall []]).length = 3 ∧
      sentTo "wasm1qyqszqgpqyqszqgpqyqszqgpqyqszqgpc0styh" "utok"
        (accepted sampleLib sampleTable.codec .execution sampleGrants
          [sampleCall [⟨"utok", 60⟩], sampleCall [⟨"utok", 30⟩], sampleCall [⟨"utok", 30⟩],
            sampleCall [], sampleCall [], sampleCall []]) ≤ 50 ∧
      callsTo "wasm1qyqszqgpqyqszqgpqyqszqgpqyqszqgpc0styh"
        (accepted sampleLib sampleTable.codec .execution sampleGrants
          [sampleCall [⟨"utok", 60⟩], sampleCall [⟨"utok", 30⟩], sampleCall [⟨"utok", 30⟩],
            sampleCall [], sampleCall [], sampleCall []]) ≤ 3 := by
  have hvalid : validateGrants sampleLib sampleTable.codec sampleGrants = .ok () := by decide
  have hcount : CountsFor "wasm1qyqszqgpqyqszqgpqyqszqgpqyqszqgpc0styh" sampleGrants := by
    intro g hg _
    simp only [sampleGrants, List.mem_cons, List.not_mem_nil, or_false] at hg
    rcases hg with rfl | rfl <;> trivial
  refine ⟨hvalid, by decide, ?_, ?_⟩
  · exact (budget_never_exceeded sampleLib sampleTable.codec .execution sampleGrants hvalid _ _).1 _
  · exact (budget_never_exceeded sampleLib sampleTable.codec .execution sampleGrants hvalid _ _).2
      hcount

end Authz
end Wasmd
