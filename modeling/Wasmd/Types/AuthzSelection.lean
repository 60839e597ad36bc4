import Wasmd.Types.AuthzBudget

/-!
# Which grant an authorization uses

* `ContractGrant.Applies` — a grant is for the contract of the message, and its limit and its filter
  accept it.
* `acceptLoop_spec` — the loop uses the first grant that applies.
* `grant_selection` — **selection and update**: no valid message fails, the decision does not depend
  on the order of the grants, one grant is used up, and what is left passes the validation.
-/

namespace Wasmd
namespace Authz

open ByteStore Effects Gas Coins

variable {lib : GoLib} {codec : AddressCodec} {contract : String} {funds : CoinSet}
    {payload : Bytes}

/-- The gas ran out. -/
def RanOut {α : Type} : Except (Failure GoError) α → Prop
  | .error (.panic (.outOfGas _)) => True
  | .error (.panic (.gasOverflow _)) => True
  | _ => False

theorem RanOut.bind {α β : Type} {x : MeterM α} {f : α → MeterM β} {m : GasMeter}
    (h : RanOut (x m).1) : RanOut ((x >>= f) m).1 := by
  cases hx : x m with
  | mk res m' =>
      rw [hx] at h
      cases res with
      | ok a => exact h.elim
      | error e =>
          rw [GoM.bind_run_error hx]
          cases e with
          | error e => exact h.elim
          | panic p => cases p <;> exact h

theorem RanOut.mapError {α : Type} {x : MeterM α} {g : GoError → GoError} {m : GasMeter}
    (h : RanOut (x m).1) : RanOut (GoM.mapError g x m).1 := by
  unfold GoM.mapError
  split
  · rename_i e m' hx
    rw [hx] at h
    exact h.elim
  · exact h

theorem consumeGas_decides (amount : UInt64) (descriptor : String) (m : GasMeter) :
    RanOut (consumeGas amount descriptor m).1 ∨
      ∃ m', consumeGas amount descriptor m = (.ok (), m') := by
  unfold consumeGas GasMeter.consumeGas
  by_cases hoverflow : maxUint64.toNat - m.gasConsumed.toNat < amount.toNat
  · rw [if_pos hoverflow]
    exact .inl trivial
  · rw [if_neg hoverflow]
    by_cases hpast : (m.withConsumed (m.gasConsumed + amount)).isPastLimit = true
    · rw [if_pos hpast]
      exact .inl trivial
    · rw [if_neg hpast]
      exact .inr ⟨_, rfl⟩

/-! ## Limits and filters on valid messages -/

/-- A valid limit decides every message. -/
theorem Limit.accept_decides {l : Limit} (hv : l.validateBasic = .ok ()) (hf : Valid funds) :
    ∃ r, l.accept funds = .ok r := by
  cases l with
  | undefined => cases hv
  | maxCalls n =>
      have hn : n ≠ 0 := by
        rintro rfl
        cases hv
      simp only [Limit.accept, if_neg hn]
      split_ifs <;> exact ⟨_, rfl⟩
  | maxFunds amounts =>
      obtain ⟨hval, -⟩ := validateBasic_maxFunds_iff.mp hv
      simp only [Limit.accept]
      split_ifs with hempty hle
      · exact ⟨_, rfl⟩
      · obtain ⟨left, hsub, -⟩ := sub_of_covered hval hf hle
        simp only [hsub]
        split_ifs <;> exact ⟨_, rfl⟩
      · exact ⟨_, rfl⟩
  | combined n amounts =>
      obtain ⟨hn, -, hval⟩ := validateBasic_combined_iff.mp hv
      simp only [Limit.accept, if_neg hn]
      split_ifs with hle hone
      · exact ⟨_, rfl⟩
      · obtain ⟨left, hsub, hleft, -⟩ := sub_of_covered hval hf hle
        simp only [hsub, newCoins_of_valid hleft]
        split_ifs <;> exact ⟨_, rfl⟩
      · exact ⟨_, rfl⟩

/-- Whether a filter accepts a valid message. -/
def Filter.passes (lib : GoLib) (payload : Bytes) : Filter → Bool
  | undefined => false
  | allowAllMessages => true
  | acceptedMessageKeys keys =>
    match lib.jsonObjectKeys payload with
    | some [key] => key ∈ keys
    | _ => false
  | acceptedMessages messages => payload ∈ messages

/-- A valid filter decides every valid message, unless the gas runs out. -/
theorem Filter.accept_decides {f : Filter} (hv : f.validateBasic lib = .ok ())
    (hjson : lib.jsonValid payload = true) (m : GasMeter) :
    RanOut (f.accept lib payload m).1 ∨
      ∃ m', f.accept lib payload m = (.ok (f.passes lib payload), m') := by
  have hraw : validateRaw lib payload = .ok () := by rw [validateRaw, if_pos hjson]
  cases f with
  | undefined => cases hv
  | allowAllMessages => exact .inr ⟨m, by simp [Filter.accept, hraw, Filter.passes]⟩
  | acceptedMessageKeys keys =>
      have hkeys : isJSONObjectWithTopLevelKey lib payload keys =
          .ok ((acceptedMessageKeys keys).passes lib payload) := by
        unfold isJSONObjectWithTopLevelKey Filter.passes
        rw [hraw]
        show (match lib.jsonObjectKeys payload with
          | some [key] => _
          | _ => _) = _
        split <;> simp_all
      simp only [Filter.accept]
      rcases consumeGas_decides (1 * UInt64.ofNat payload.length) "contract authorization" m with
        hout | ⟨m', hpaid⟩
      · exact .inl hout.bind
      · exact .inr ⟨m', by rw [GoM.bind_run_ok hpaid, hkeys]; rfl⟩
  | acceptedMessages messages =>
      refine .inr ⟨m, ?_⟩
      simp [Filter.accept, Filter.passes, List.any_eq, eq_comm]

/-! ## The grant that is used -/

/-- The grant is for the contract of the message, and its limit and its filter accept it. -/
def ContractGrant.Applies (lib : GoLib) (contract : String) (funds : CoinSet) (payload : Bytes)
    (g : ContractGrant) : Prop :=
  g.contract = contract ∧ (∃ r, g.limit.accept funds = .ok r ∧ r.accepted = true) ∧
    g.filter.passes lib payload = true

/-- The response when the grant `g` between `before` and `after` is used. -/
def useGrant (before : List ContractGrant) (g : ContractGrant) (after : List ContractGrant)
    (result : LimitResult) : AcceptResponse :=
  if result.deleteLimit then
    if before ++ after = [] then ⟨true, true, none⟩ else ⟨true, false, some (before ++ after)⟩
  else ⟨true, false, result.updateLimit.map fun l => before ++ { g with limit := l } :: after⟩

theorem updateLimits_of_valid {before after : List ContractGrant} {g : ContractGrant}
    {result : LimitResult} (hv : AllValid lib codec (before ++ g :: after))
    (hp : Pays g.limit funds (result.left g.limit)) (m : GasMeter) :
    updateLimits lib codec before g after result m = (.ok (useGrant before g after result), m) := by
  have hnew := allValid_replace hv hp
  unfold updateLimits useGrant
  by_cases hdelete : result.deleteLimit = true
  · rw [if_pos hdelete, if_pos hdelete]
    simp only [LimitResult.left, hdelete, if_true, Option.toList_none, List.map_nil,
      List.append_nil] at hnew
    by_cases hnil : before ++ after = []
    · rw [if_pos (List.length_eq_zero_iff.mpr hnil), if_pos hnil]
      rfl
    · rw [if_neg (fun h => hnil (List.length_eq_zero_iff.mp h)), if_neg hnil,
        respondUpdated_of_valid hnil hnew]
  · rw [if_neg hdelete, if_neg hdelete]
    simp only [LimitResult.left, if_neg hdelete] at hnew
    cases hup : result.updateLimit with
    | none => rfl
    | some l =>
        rw [hup] at hnew
        simp only [Option.getD_some, Option.toList_some, List.map_cons, List.map_nil,
          List.append_assoc, List.singleton_append] at hnew
        exact respondUpdated_of_valid (by simp) hnew m

/-- What the loop answers: no grant applies, or the first one that does is used. -/
inductive Selected (lib : GoLib) (contract : String) (funds : CoinSet) (payload : Bytes)
    (before after : List ContractGrant) : AcceptResponse → Prop
  | none : (∀ g ∈ after, ¬ g.Applies lib contract funds payload) →
      Selected lib contract funds payload before after ⟨false, false, .none⟩
  | first (pre : List ContractGrant) (g : ContractGrant) (post : List ContractGrant)
      (result : LimitResult) : after = pre ++ g :: post →
      (∀ g' ∈ pre, ¬ g'.Applies lib contract funds payload) →
      g.Applies lib contract funds payload → g.limit.accept funds = .ok result →
      Selected lib contract funds payload before after (useGrant (before ++ pre) g post result)

/-- A grant that does not apply is passed over. -/
theorem Selected.skip {before after : List ContractGrant} {g : ContractGrant} {r : AcceptResponse}
    (hg : ¬ g.Applies lib contract funds payload)
    (h : Selected lib contract funds payload (before ++ [g]) after r) :
    Selected lib contract funds payload before (g :: after) r := by
  cases h with
  | none hnone => exact .none (List.forall_mem_cons.mpr ⟨hg, hnone⟩)
  | first pre g' post result hafter hpre happlies hresult =>
      rw [List.append_assoc, List.singleton_append]
      exact .first (g :: pre) g' post result (by rw [hafter]; rfl)
        (List.forall_mem_cons.mpr ⟨hg, hpre⟩) happlies hresult

/-- **The loop uses the first grant that applies**, unless the gas runs out. -/
theorem acceptLoop_spec (hf : Valid funds) (hjson : lib.jsonValid payload = true) :
    ∀ (after before : List ContractGrant) (m : GasMeter), AllValid lib codec (before ++ after) →
      RanOut (acceptLoop lib codec contract funds payload before after m).1 ∨
        ∃ r m', acceptLoop lib codec contract funds payload before after m = (.ok r, m') ∧
          Selected lib contract funds payload before after r := by
  intro after
  induction after with
  | nil => exact fun before m _ => .inr ⟨_, m, rfl, .none fun _ h => absurd h List.not_mem_nil⟩
  | cons g after ih =>
      intro before m hv
      have hassoc : before ++ [g] ++ after = before ++ g :: after := by simp
      -- a grant that does not apply joins those in front
      have hskip : ∀ m₁, ¬ g.Applies lib contract funds payload →
          RanOut (acceptLoop lib codec contract funds payload (before ++ [g]) after m₁).1 ∨
            ∃ r m', acceptLoop lib codec contract funds payload (before ++ [g]) after m₁ =
              (.ok r, m') ∧ Selected lib contract funds payload before (g :: after) r := by
        intro m₁ hg
        rcases ih (before ++ [g]) m₁ (hassoc ▸ hv) with hout | ⟨r, m', hrun, hselected⟩
        · exact .inl hout
        · exact .inr ⟨r, m', hrun, hselected.skip hg⟩
      obtain ⟨-, hlimit, hfilter⟩ := ContractGrant.validateBasic_ok_iff.mp (hv g (by simp))
      rw [acceptLoop]
      by_cases hcontract : g.contract = contract
      · rw [if_neg (not_not.mpr hcontract)]
        obtain ⟨result, hresult⟩ := Limit.accept_decides hlimit hf
        have hrun : GoM.mapError (.wrapped "limit") (GoM.ofExcept (g.limit.accept funds)) m =
            (.ok result, m) := by
          rw [hresult]
          rfl
        rw [GoM.bind_run_ok hrun]
        by_cases haccepted : result.accepted = true
        · rw [if_neg (not_not.mpr haccepted)]
          rcases Filter.accept_decides hfilter hjson m with hout | ⟨m', hdecided⟩
          · exact .inl hout.mapError.bind
          · have hfiltered : GoM.mapError (.wrapped "filter") (g.filter.accept lib payload) m =
                (.ok (g.filter.passes lib payload), m') := by
              unfold GoM.mapError
              rw [hdecided]
            rw [GoM.bind_run_ok hfiltered]
            cases hpasses : g.filter.passes lib payload with
            | false =>
                refine hskip m' fun happlies => ?_
                rw [happlies.2.2] at hpasses
                cases hpasses
            | true =>
                have hpays := Limit.accept_spends hlimit hf hresult haccepted
                refine .inr ⟨_, m', updateLimits_of_valid hv hpays m', ?_⟩
                have hfirst : Selected lib contract funds payload before (g :: after)
                    (useGrant (before ++ []) g after result) :=
                  .first [] g after result rfl (fun _ h => absurd h List.not_mem_nil)
                    ⟨hcontract, ⟨result, hresult, haccepted⟩, hpasses⟩ hresult
                rwa [List.append_nil] at hfirst
        · rw [if_pos haccepted]
          refine hskip m fun happlies => haccepted ?_
          obtain ⟨-, ⟨r, hr, hacc⟩, -⟩ := happlies
          rw [hresult] at hr
          cases hr
          exact hacc
      · rw [if_pos hcontract]
        exact hskip m fun happlies => hcontract happlies.1

/-! ## Selection and update -/

/-- A message that passes its validation carries valid JSON. -/
theorem Msg.jsonValid_payload {msg : Msg} (h : msg.validateBasic lib codec = .ok ())
    (hpayload : msg.payload = some payload) : lib.jsonValid payload = true := by
  by_contra hjson
  cases msg with
  | execute sender contract body funds =>
      obtain rfl : body = some payload := hpayload
      cases hs : decodeAddress codec "sender" sender <;>
        cases hc : decodeAddress codec "contract" contract <;>
          cases hcoins : Coins.validate funds <;>
            simp [Msg.validateBasic, hs, hc, hcoins, validateRaw, hjson, bind, Except.bind,
              Except.mapError] at h
  | migrate sender contract codeID body =>
      obtain rfl : body = some payload := hpayload
      by_cases hid : codeID = 0 <;> cases hs : decodeAddress codec "sender" sender <;>
        cases hc : decodeAddress codec "contract" contract <;>
          simp [Msg.validateBasic, hid, hs, hc, validateRaw, hjson, bind, Except.bind,
            Except.mapError] at h
  | other => cases hpayload

/-- On a valid message of its type `AcceptGrantedMessage` is its loop. -/
theorem acceptGrantedMessage_eq {kind : Kind} {grants : List ContractGrant} {msg : Msg}
    (hkind : kind.matches msg = true) (hpayload : msg.payload = some payload)
    (hmsg : msg.validateBasic lib codec = .ok ()) :
    acceptGrantedMessage lib codec kind grants msg =
      acceptLoop lib codec msg.contract msg.funds payload [] grants := by
  unfold acceptGrantedMessage
  rw [if_neg (not_not.mpr hkind), hpayload]
  simp only [hmsg]

theorem Selected.accept_iff {grants : List ContractGrant} {r : AcceptResponse}
    (h : Selected lib contract funds payload [] grants r) :
    r.accept = true ↔ ∃ g ∈ grants, g.Applies lib contract funds payload := by
  cases h with
  | none hnone =>
      refine iff_of_false (by simp) ?_
      rintro ⟨g, hg, happlies⟩
      exact hnone g hg happlies
  | first pre g post result hgrants hpre happlies hresult =>
      refine iff_of_true ?_ ⟨g, by rw [hgrants]; simp, happlies⟩
      unfold useGrant
      split_ifs <;> rfl

/-- The grants after the first one that applies was used. -/
theorem useGrant_grantsAfter (pre : List ContractGrant) (g : ContractGrant)
    (post : List ContractGrant) (result : LimitResult) :
    (useGrant pre g post result).grantsAfter (pre ++ g :: post) =
      pre ++ ((result.left g.limit).toList.map fun l => { g with limit := l }) ++ post := by
  unfold useGrant LimitResult.left AcceptResponse.grantsAfter
  by_cases hdelete : result.deleteLimit = true
  · simp only [hdelete, if_true]
    by_cases hnil : pre ++ post = []
    · simp [hnil]
    · simp [hnil]
  · simp only [if_neg hdelete]
    cases result.updateLimit <;> simp

theorem useGrant_updated {pre post updated : List ContractGrant} {g : ContractGrant}
    {result : LimitResult} (h : (useGrant pre g post result).updated = some updated) :
    (useGrant pre g post result).grantsAfter (pre ++ g :: post) = updated ∧ updated ≠ [] := by
  by_cases hdelete : result.deleteLimit = true
  · by_cases hnil : pre ++ post = []
    · simp [useGrant, hdelete, hnil] at h
    · simp only [useGrant, hdelete, if_true, if_neg hnil, Option.some.injEq] at h
      subst h
      simp [useGrant, AcceptResponse.grantsAfter, hdelete, hnil]
  · cases hup : result.updateLimit with
    | none => simp [useGrant, hdelete, hup] at h
    | some l =>
        simp only [useGrant, if_neg hdelete, hup, Option.map_some, Option.some.injEq] at h
        subst h
        simp [useGrant, AcceptResponse.grantsAfter, hdelete, hup]

theorem Selected.used {grants : List ContractGrant} {r : AcceptResponse}
    (h : Selected lib contract funds payload [] grants r) (haccept : r.accept = true) :
    ∃ pre g post result, grants = pre ++ g :: post ∧
      (∀ g' ∈ pre, ¬ g'.Applies lib contract funds payload) ∧
      g.Applies lib contract funds payload ∧ g.limit.accept funds = .ok result ∧
      r.grantsAfter grants =
        pre ++ ((result.left g.limit).toList.map fun l => { g with limit := l }) ++ post := by
  cases h with
  | none hnone => cases haccept
  | first pre g post result hgrants hpre happlies hresult =>
      subst hgrants
      exact ⟨pre, g, post, result, rfl, hpre, happlies, hresult,
        useGrant_grantsAfter pre g post result⟩

theorem Selected.delete_iff {grants : List ContractGrant} {r : AcceptResponse}
    (h : Selected lib contract funds payload [] grants r) :
    r.delete = true ↔ r.accept = true ∧ r.grantsAfter grants = [] := by
  cases h with
  | none hnone => simp
  | first pre g post result hgrants hpre happlies hresult =>
      subst hgrants
      rw [List.nil_append]
      by_cases hdelete : result.deleteLimit = true
      · by_cases hnil : pre ++ post = []
        · simp [useGrant, AcceptResponse.grantsAfter, hdelete, hnil]
        · simp [useGrant, AcceptResponse.grantsAfter, hdelete, hnil]
      · cases hup : result.updateLimit <;>
          simp [useGrant, AcceptResponse.grantsAfter, hdelete, hup]

theorem Selected.updated_valid {grants updated : List ContractGrant} {r : AcceptResponse}
    (h : Selected lib contract funds payload [] grants r) (hf : Valid funds)
    (hall : AllValid lib codec grants) (hupdated : r.updated = some updated) :
    validateGrants lib codec updated = .ok () := by
  cases h with
  | none hnone => cases hupdated
  | first pre g post result hgrants hpre happlies hresult =>
      subst hgrants
      obtain ⟨-, hlimit, -⟩ := ContractGrant.validateBasic_ok_iff.mp (hall g (by simp))
      obtain ⟨-, ⟨result', hresult', haccepted⟩, -⟩ := happlies
      rw [hresult] at hresult'
      cases hresult'
      have hnew := allValid_replace hall (Limit.accept_spends hlimit hf hresult haccepted)
      rw [← useGrant_grantsAfter pre g post result] at hnew
      rw [List.nil_append] at hupdated
      obtain ⟨hafter, hne⟩ := useGrant_updated hupdated
      rw [hafter] at hnew
      exact validateGrants_ok_iff.mpr ⟨hne, hnew⟩

/-- **Selection and update.**  Take an authorization that passes its validation and a message of its
type with a payload that passes its own, and assume that the gas does not run out.

There is no error.  The message is accepted exactly if some grant applies to it, which does not
depend on the order of the grants.  If it is accepted, the first grant `g` that applies is used: it
is dropped, or gets the new limit, or is left alone, and the other grants stay as they are.  The
authorization is deleted exactly if no grant remains, and an updated one passes the validation. -/
theorem grant_selection (lib : GoLib) (codec : AddressCodec) (kind : Kind)
    (grants : List ContractGrant) (hv : validateGrants lib codec grants = .ok ()) (msg : Msg)
    (payload : Bytes) (hkind : kind.matches msg = true) (hpayload : msg.payload = some payload)
    (hmsg : msg.validateBasic lib codec = .ok ()) (m : GasMeter)
    (hgas : ¬ RanOut (acceptGrantedMessage lib codec kind grants msg m).1) :
    ∃ r m', acceptGrantedMessage lib codec kind grants msg m = (.ok r, m') ∧
      (r.accept = true ↔ ∃ g ∈ grants, g.Applies lib msg.contract msg.funds payload) ∧
      (∀ grants', grants'.Perm grants → ∀ m₁ r₁ m₁',
        acceptGrantedMessage lib codec kind grants' msg m₁ = (.ok r₁, m₁') →
        r₁.accept = r.accept) ∧
      (r.accept = true → ∃ pre g post result, grants = pre ++ g :: post ∧
        (∀ g' ∈ pre, ¬ g'.Applies lib msg.contract msg.funds payload) ∧
        g.Applies lib msg.contract msg.funds payload ∧ g.limit.accept msg.funds = .ok result ∧
        r.grantsAfter grants =
          pre ++ ((result.left g.limit).toList.map fun l => { g with limit := l }) ++ post) ∧
      (r.delete = true ↔ r.accept = true ∧ r.grantsAfter grants = []) ∧
      ∀ updated, r.updated = some updated → validateGrants lib codec updated = .ok () := by
  obtain ⟨-, hall⟩ := validateGrants_ok_iff.mp hv
  have hf := Msg.valid_funds hmsg
  have hjson := Msg.jsonValid_payload hmsg hpayload
  have hloop : ∀ {grants' : List ContractGrant}, AllValid lib codec grants' → ∀ {m₁ r₁ m₁'},
      acceptGrantedMessage lib codec kind grants' msg m₁ = (.ok r₁, m₁') →
      Selected lib msg.contract msg.funds payload [] grants' r₁ := by
    intro grants' hall' m₁ r₁ m₁' hrun
    rw [acceptGrantedMessage_eq hkind hpayload hmsg] at hrun
    rcases acceptLoop_spec hf hjson grants' [] m₁ hall' with hout | ⟨r₂, m₂, hrun', hselected⟩
    · rw [hrun] at hout
      exact hout.elim
    · rw [hrun] at hrun'
      cases hrun'
      exact hselected
  obtain ⟨r, m', hrun⟩ : ∃ r m', acceptGrantedMessage lib codec kind grants msg m =
      (.ok r, m') := by
    rw [acceptGrantedMessage_eq hkind hpayload hmsg] at hgas ⊢
    rcases acceptLoop_spec hf hjson grants [] m hall with hout | ⟨r, m', hrun, -⟩
    · exact absurd hout hgas
    · exact ⟨r, m', hrun⟩
  have hselected := hloop hall hrun
  refine ⟨r, m', hrun, hselected.accept_iff, fun grants' hperm m₁ r₁ m₁' hrun' => ?_,
    fun haccept => hselected.used haccept, hselected.delete_iff, fun updated hupdated =>
      hselected.updated_valid hf hall hupdated⟩
  -- the same grants apply in the other order
  have hselected' := hloop (fun g hg => hall g (hperm.mem_iff.mp hg)) hrun'
  rw [Bool.eq_iff_iff, hselected'.accept_iff, hselected.accept_iff]
  simp only [hperm.mem_iff]

/-! ### The first of two grants -/

/-- A call with 30 tokens uses up the first grant. -/
theorem grant_selection_first :
    (acceptGrantedMessage sampleLib sampleTable.codec .execution sampleGrants
      (sampleCall [⟨"utok", 30⟩]).2 (.infinite 0)).1 =
        .ok ⟨true, false, some (sampleGrants.drop 1)⟩ ∧
    ∃ pre g post result, sampleGrants = pre ++ g :: post ∧
      (∀ g' ∈ pre, ¬ g'.Applies sampleLib (sampleCall [⟨"utok", 30⟩]).2.contract
        (sampleCall [⟨"utok", 30⟩]).2.funds [123, 125]) ∧
      g.Applies sampleLib (sampleCall [⟨"utok", 30⟩]).2.contract
        (sampleCall [⟨"utok", 30⟩]).2.funds [123, 125] ∧
      g.limit.accept (sampleCall [⟨"utok", 30⟩]).2.funds = .ok result ∧
      sampleGrants.drop 1 =
        pre ++ ((result.left g.limit).toList.map fun l => { g with limit := l }) ++ post := by
  have hdecided : (acceptGrantedMessage sampleLib sampleTable.codec .execution sampleGrants
      (sampleCall [⟨"utok", 30⟩]).2 (.infinite 0)).1 =
      .ok ⟨true, false, some (sampleGrants.drop 1)⟩ := by decide
  have hgas : ¬ RanOut (acceptGrantedMessage sampleLib sampleTable.codec .execution sampleGrants
      (sampleCall [⟨"utok", 30⟩]).2 (.infinite 0)).1 := by
    rw [hdecided]
    exact id
  obtain ⟨r, m', hrun, -, -, hused, -⟩ := grant_selection sampleLib sampleTable.codec .execution
    sampleGrants (by decide) (sampleCall [⟨"utok", 30⟩]).2 [123, 125] rfl rfl (by decide)
      (.infinite 0)
    hgas
  rw [hrun] at hdecided
  cases hdecided
  exact ⟨by rw [hrun], hused rfl⟩

end Authz
end Wasmd
