import Wasmd.Keeper.Codes

/-!
# Contract addresses

An address is the hash of a key: the ids of the code and of the instance, or the parts that
`instantiate2` is given, each with its length before it.

* `predictableKey_inj` — the key of `instantiate2` determines the checksum, the creator, the salt
  and the message.  `predictableKey_ne_classicKey` — it is never the key of a classic address.
* `Unwrapped` — a stretch of a run in which the sequence of the instances does not wrap around.
* `addresses_never_collide` — **two instantiations never get the same address**, and only
  `instantiate2` with the same parts comes to one that is taken.
-/

namespace Wasmd

open ByteStore KVStore Effects Gas

variable {ε C : Type} {k : Keeper ε C} {m : Messenger ε C} {sim : Bool} {d d' : Durable}
  {w w' : World (Multistore ε) Shared}

/-! ## Keys -/

/-- What `BuildContractAddressClassic` hashes. -/
def classicKey (codeID instanceID : UInt64) : Bytes :=
  uint64ToBigEndian codeID ++ uint64ToBigEndian instanceID

/-- What `BuildContractAddressPredictable` hashes. -/
def predictableKey (checksum : Bytes) (creator : AccAddress) (salt initMsg : Bytes) : Bytes :=
  uint64LengthPrefix checksum ++ uint64LengthPrefix creator.bytes ++ uint64LengthPrefix salt ++
    uint64LengthPrefix initMsg

theorem classicKey_inj {c c' i i' : UInt64} (h : classicKey c i = classicKey c' i') :
    c = c' ∧ i = i' := by
  obtain ⟨hcode, hinstance⟩ := List.append_inj h (by simp)
  exact ⟨uint64ToBigEndian_injective hcode, uint64ToBigEndian_injective hinstance⟩

/-- A part with its length before it can be split off. -/
theorem uint64LengthPrefix_append_inj {a b u v : Bytes} (ha : a.length < 2 ^ 64)
    (hb : b.length < 2 ^ 64) (h : uint64LengthPrefix a ++ u = uint64LengthPrefix b ++ v) :
    a = b ∧ u = v := by
  unfold uint64LengthPrefix at h
  rw [List.append_assoc, List.append_assoc] at h
  obtain ⟨hlength, hrest⟩ := List.append_inj h (by simp)
  have heq := congrArg UInt64.toNat (uint64ToBigEndian_injective hlength)
  rw [UInt64.toNat_ofNat', UInt64.toNat_ofNat', Nat.mod_eq_of_lt ha, Nat.mod_eq_of_lt hb] at heq
  exact List.append_inj hrest heq

theorem length_lt_of_validateSalt {salt : Bytes} (h : validateSalt salt = .ok ()) :
    salt.length < 2 ^ 64 := by
  unfold validateSalt at h
  split_ifs at h with hempty hlong
  have hmax : maxSaltSize < 2 ^ 64 := by decide
  omega

/-- **The key of a predictable address determines its parts**, whatever the length of the
message. -/
theorem predictableKey_inj {checksum checksum' salt salt' msg msg' : Bytes}
    {creator creator' : AccAddress} (hchecksum : checksum.length = 32)
    (hchecksum' : checksum'.length = 32) (hsalt : validateSalt salt = .ok ())
    (hsalt' : validateSalt salt' = .ok ())
    (h : predictableKey checksum creator salt msg = predictableKey checksum' creator' salt' msg') :
    checksum = checksum' ∧ creator = creator' ∧ salt = salt' ∧ msg = msg' := by
  unfold predictableKey at h
  simp only [List.append_assoc] at h
  obtain ⟨rfl, hparts⟩ := uint64LengthPrefix_append_inj (by omega) (by omega) h
  have hlen := creator.length_le
  have hlen' := creator'.length_le
  obtain ⟨hcreator, hrest⟩ := uint64LengthPrefix_append_inj (by omega) (by omega) hparts
  obtain ⟨rfl, hlast⟩ := uint64LengthPrefix_append_inj (length_lt_of_validateSalt hsalt)
    (length_lt_of_validateSalt hsalt') hrest
  -- the message is the last part, so that its length is not needed
  obtain ⟨-, rfl⟩ := List.append_inj hlast (by simp)
  exact ⟨rfl, AccAddress.bytes_injective hcreator, rfl, rfl⟩

theorem predictableKey_ne_classicKey {checksum : Bytes} (hchecksum : checksum.length = 32)
    (creator : AccAddress) (salt msg : Bytes) (codeID instanceID : UInt64) :
    predictableKey checksum creator salt msg ≠ classicKey codeID instanceID := by
  intro h
  have hlen := congrArg List.length h
  simp only [predictableKey, classicKey, uint64LengthPrefix, List.length_append,
    length_uint64ToBigEndian, hchecksum] at hlen
  omega

/-! ## The address of a call -/

/-- The key a generator hashes. -/
def AddressGenerator.key (next codeID : UInt64) (checksum : Bytes) : AddressGenerator → Bytes
  | .classic => classicKey codeID next
  | .predictable creator salt msg fixMsg =>
    predictableKey checksum creator salt (if fixMsg then msg else [])

/-- What `BuildContractAddressPredictable` asks of its parts. -/
def AddressGenerator.Valid (checksum : Bytes) : AddressGenerator → Prop
  | .classic => True
  | .predictable _ salt _ _ => checksum.length = 32 ∧ validateSalt salt = .ok ()

theorem buildContractAddressPredictable_ok {checksum : Bytes} {creator : AccAddress}
    {salt msg : Bytes} {a : AccAddress}
    (h : k.buildContractAddressPredictable checksum creator salt msg = .ok a) :
    a = k.moduleAddress (predictableKey checksum creator salt msg) ∧ checksum.length = 32 ∧
      validateSalt salt = .ok () := by
  unfold Keeper.buildContractAddressPredictable at h
  by_cases hlen : checksum.length = 32
  · rw [if_neg (not_not.mpr hlen)] at h
    cases hsalt : validateSalt salt with
    | error e =>
        rw [hsalt] at h
        cases h
    | ok u =>
        rw [hsalt] at h
        dsimp only at h
        split_ifs at h
        cases h
        exact ⟨rfl, hlen, rfl⟩
  · rw [if_pos hlen] at h
    cases h

theorem generateAddress_key {codeID : UInt64} {checksum : Bytes} {g : AddressGenerator}
    {a : AccAddress} (h : k.generateAddress codeID checksum g w = (.ok a, w')) :
    a = k.moduleAddress (g.key w.ms.wasm.nextInstanceID codeID checksum) ∧ g.Valid checksum := by
  cases g with
  | classic =>
      obtain ⟨id, w₁, hid, h₁⟩ := GoM.bind_ok_iff.mp h
      obtain ⟨rfl, rfl⟩ := mustAutoIncrementID_ok hid
      obtain ⟨rfl, rfl⟩ := GoM.pure_ok_iff.mp h₁
      exact ⟨rfl, trivial⟩
  | predictable creator salt msg fixMsg =>
      obtain ⟨hbuild, rfl⟩ := orPanic_ok_iff.mp h
      exact buildContractAddressPredictable_ok hbuild

/-- Two generators that hash the same key: both are predictable, with the same parts, or both are
classic, with the same ids. -/
theorem AddressGenerator.key_eq {g g' : AddressGenerator} {n n' c c' : UInt64}
    {checksum checksum' : Bytes} (hg : g.Valid checksum) (hg' : g'.Valid checksum')
    (h : g.key n c checksum = g'.key n' c' checksum') :
    (g = .classic ∧ g' = .classic ∧ c = c' ∧ n = n') ∨
      ∃ creator salt msg fix msg' fix', g = .predictable creator salt msg fix ∧
        g' = .predictable creator salt msg' fix' ∧ checksum = checksum' ∧
        (if fix then msg else []) = (if fix' then msg' else []) := by
  cases g with
  | classic =>
      cases g' with
      | classic => exact .inl ⟨rfl, rfl, (classicKey_inj h).1, (classicKey_inj h).2⟩
      | predictable creator' salt' msg' fix' =>
          exact absurd h.symm (predictableKey_ne_classicKey hg'.1 _ _ _ _ _)
  | predictable creator salt msg fix =>
      cases g' with
      | classic => exact absurd h (predictableKey_ne_classicKey hg.1 _ _ _ _ _)
      | predictable creator' salt' msg' fix' =>
          obtain ⟨rfl, rfl, rfl, hmsg⟩ := predictableKey_inj hg.1 hg'.1 hg.2 hg'.2 h
          exact .inr ⟨creator, salt, msg, fix, msg', fix', rfl, rfl, rfl, hmsg⟩

theorem generateAddress_classic {codeID : UInt64} {checksum : Bytes} {a : AccAddress}
    (h : k.generateAddress codeID checksum .classic w = (.ok a, w')) :
    w'.ms.wasm.nextInstanceID = w.ms.wasm.nextInstanceID + 1 := by
  obtain ⟨id, w₁, hid, h₁⟩ := GoM.bind_ok_iff.mp h
  obtain ⟨-, rfl⟩ := mustAutoIncrementID_ok hid
  obtain ⟨-, rfl⟩ := GoM.pure_ok_iff.mp h₁
  exact w.ms.wasm.peekAutoIncrementID_autoIncrementID_self keySequenceInstanceID

theorem Confined.nextInstanceID_eq {A : AccAddress → Prop} (h : Confined A w w') :
    w'.ms.wasm.nextInstanceID = w.ms.wasm.nextInstanceID :=
  congrArg (·.nextInstanceID) h.registry

/-- The rest of `claimAddress`. -/
theorem claimed_ok {creator a contract : AccAddress} {deposit : Coins.CoinSet}
    {e : GoError} (h : (do
      let existing ← readStore (·.hasContractInfo a)
      GoM.ensure (existing = false) e
      k.claimAccount a
      k.transferFunds creator a deposit
      return a) w = (.ok contract, w')) : contract = a ∧ Confined noContract w w' := by
  obtain ⟨_, w₁, hread, h₁⟩ := GoM.bind_ok_iff.mp h
  obtain ⟨-, rfl⟩ := readStore_ok_iff.mp hread
  obtain ⟨_, w₂, hcheck, h₂⟩ := GoM.bind_ok_iff.mp h₁
  obtain ⟨-, rfl⟩ := GoM.ensure_ok_iff.mp hcheck
  obtain ⟨_, w₃, hacct, h₃⟩ := GoM.bind_ok_iff.mp h₂
  obtain ⟨_, w₄, hfunds, h₄⟩ := GoM.bind_ok_iff.mp h₃
  obtain ⟨rfl, rfl⟩ := GoM.pure_ok_iff.mp h₄
  exact ⟨rfl, ((claimAccount_stays k _).confined hacct).trans
    ((transferFunds_stays k _ _ _).confined hfunds)⟩

/-- A call of `instantiate` or `instantiate2`. -/
structure InstantiateCall where
  ctx : SdkContext
  codeID : UInt64
  creator : Option AccAddress
  admin : Option AccAddress
  initMsg : Bytes
  label : String
  deposit : Coins.CoinSet
  generator : AddressGenerator
  policy : AuthorizationPolicy

/-- The call. -/
def InstantiateCall.run (k : Keeper ε C) (c : InstantiateCall) :
    KeeperM ε (AccAddress × ContractInfo × ContractResponse C) :=
  k.newInstance c.ctx c.codeID c.creator c.admin c.initMsg c.label c.deposit c.generator c.policy

/-- The key the call hashes, made in a store. -/
def InstantiateCall.key (c : InstantiateCall) (s : WasmStore) (codeInfo : CodeInfo) : Bytes :=
  c.generator.key s.nextInstanceID c.codeID codeInfo.codeHash

/-- **A contract got the address its generator gives.** -/
theorem InstantiateCall.run_ok {c : InstantiateCall}
    {out : AccAddress × ContractInfo × ContractResponse C} (h : c.run k w = (.ok out, w')) :
    ∃ codeInfo, w.ms.wasm.getCodeInfo c.codeID = some codeInfo ∧
      out.1 = k.moduleAddress (c.key w.ms.wasm codeInfo) ∧ c.generator.Valid codeInfo.codeHash ∧
      (c.generator = .classic → w'.ms.wasm.nextInstanceID = w.ms.wasm.nextInstanceID + 1) := by
  obtain ⟨addr, w₁, hsome, h₁⟩ := GoM.bind_ok_iff.mp h
  obtain ⟨-, rfl⟩ := GoM.ofOption_ok_iff.mp hsome
  obtain ⟨codeInfo, hcode, h₂⟩ := lookup_ok h₁
  obtain ⟨⟨contract, res⟩, w₃, hcall, h₃⟩ := GoM.bind_ok_iff.mp h₂
  obtain ⟨w₄, w₅, hfirst, hclaim, hrun⟩ := enter_ok k hcall
  obtain ⟨-, h₄⟩ := permitted_ok hclaim
  obtain ⟨a, w₆, haddr, h₅⟩ := GoM.bind_ok_iff.mp h₄
  obtain ⟨hkey, hvalid⟩ := generateAddress_key haddr
  rw [hfirst.wasm_eq] at hkey
  obtain ⟨rfl, hclaimed⟩ := claimed_ok h₅
  obtain ⟨res', w₇, hresult, h₆⟩ := GoM.bind_ok_iff.mp h₃
  obtain ⟨createdAt, w₈, hposition, h₇⟩ := GoM.bind_ok_iff.mp h₆
  obtain ⟨-, rfl⟩ := orPanic_ok_iff.mp hposition
  obtain ⟨report, w₉, hreport, h₈⟩ := GoM.bind_ok_iff.mp h₇
  obtain ⟨-, rfl⟩ := analyzeCode_ok hreport
  obtain ⟨_, w₁₀, hwrite, h₉⟩ := GoM.bind_ok_iff.mp h₈
  obtain rfl := writeStore_ok_iff.mp hwrite
  obtain ⟨_, w₁₁, hevents, h₁₀⟩ := GoM.bind_ok_iff.mp h₉
  obtain rfl := emitEvents_ok_iff.mp hevents
  obtain ⟨rfl, rfl⟩ := GoM.pure_ok_iff.mp h₁₀
  refine ⟨codeInfo, hcode, hkey, hvalid, fun hclassic => ?_⟩
  have hres : Confined noContract w₃ _ := (contractResult_stays _ _ _).confined hresult
  rw [hclassic] at haddr
  refine (hres.nextInstanceID_eq.trans hrun.nextInstanceID_eq).trans ?_
  rw [hclaimed.nextInstanceID_eq, generateAddress_classic haddr, hfirst.nextInstanceID_eq]

/-- An address that is taken is rejected. -/
theorem claimAddress_duplicate {codeID : UInt64} {codeInfo : CodeInfo} {creator : AccAddress}
    {deposit : Coins.CoinSet} {g : AddressGenerator} {authPolicy : AuthorizationPolicy}
    {a : AccAddress} {w₁ : World (Multistore ε) Shared}
    (hallowed : authPolicy.canInstantiateContract k.codec codeInfo.instantiateConfig creator =
      .ok true) (hgen : k.generateAddress codeID codeInfo.codeHash g w = (.ok a, w₁))
    (hstored : (w.ms.wasm.getContractInfo a).isSome) :
    (k.claimAddress codeID codeInfo creator deposit g authPolicy w).1 =
      .error (.error (errDuplicate.wrap
        ("contract address already exists, " ++
          "try a different combination of creator, checksum and salt"))) := by
  obtain ⟨s₁, hassigned, rfl⟩ := generateAddress_ok hgen
  have htaken : s₁.hasContractInfo a = true := by
    rw [WasmStore.hasContractInfo_eq, hassigned.getContractInfo_eq, hstored, Bool.true_or]
  unfold Keeper.claimAddress
  rw [GoM.bind_run_ok (orPanic_ok_iff.mpr ⟨hallowed, rfl⟩),
    GoM.bind_run_ok (GoM.ensure_run_true rfl _ _), GoM.bind_run_ok hgen,
    GoM.bind_run_ok (readStore_ok_iff.mpr ⟨htaken.symm, rfl⟩)]
  rfl

/-! ## Moments of a run -/

/-- One change, or a packet that is kept. -/
inductive Moment (k : Keeper ε C) (d d' : Durable) : Prop
  | change : Change k true d d' → Moment k d d'
  | packet (packet : Packet) : d' = { d with store := d.store.storeAsyncAckPacket packet } →
      Moment k d d'

/-- Any number of moments. -/
def Moments (k : Keeper ε C) : Durable → Durable → Prop := Relation.ReflTransGen (Moment k)

/-- The sequence of the instances does not wrap around in it. -/
def Moment.Unwrapped (k : Keeper ε C) (d d' : Durable) : Prop :=
  Moment k d d' ∧ d.store.nextInstanceID ≤ d'.store.nextInstanceID

/-- Any number of moments in which the sequence of the instances does not wrap around. -/
def Unwrapped (k : Keeper ε C) : Durable → Durable → Prop :=
  Relation.ReflTransGen (Moment.Unwrapped k)

theorem Moment.contract_stays (h : Moment k d d') {a : AccAddress}
    (ha : (d.store.getContractInfo a).isSome) : (d'.store.getContractInfo a).isSome := by
  cases h with
  | change h =>
      have hc := h.contract a
      revert ha hc
      generalize d.store.getContractInfo a = old
      generalize d'.store.getContractInfo a = new
      intro ha hc
      cases hc with
      | same => exact ha
      | instantiated => exact absurd ha (by simp)
      | migrated => rfl
      | settings => rfl
  | packet packet hd =>
      subst hd
      exact ha

theorem Unwrapped.contract_stays (h : Unwrapped k d d') {a : AccAddress}
    (ha : (d.store.getContractInfo a).isSome) : (d'.store.getContractInfo a).isSome := by
  induction h with
  | refl => exact ha
  | tail _ hstep ih => exact hstep.1.contract_stays ih

theorem Unwrapped.nextInstanceID_le (h : Unwrapped k d d') :
    d.store.nextInstanceID ≤ d'.store.nextInstanceID := by
  induction h with
  | refl => exact UInt64.le_refl _
  | tail _ hstep ih => exact UInt64.le_trans ih hstep.2

theorem CoreChange.nextInstanceID {s s' : WasmStore} (h : CoreChange k s s') :
    s'.nextInstanceID = s.nextInstanceID ∨ s'.nextInstanceID = s.nextInstanceID + 1 ∧
      ∃ codeID, (s'.getContractInfo
        (k.buildContractAddressClassic codeID s.nextInstanceID)).isSome := by
  cases h with
  | same h => exact .inl (congrArg (·.nextInstanceID) h)
  | claimed codeID hstored h =>
      exact .inr ⟨(congrArg (·.nextInstanceID) h).trans
        (s.peekAutoIncrementID_autoIncrementID_self keySequenceInstanceID), codeID, hstored⟩
  | create _ h =>
      exact .inl ((congrArg (·.nextInstanceID) h).trans
        (s.peekAutoIncrementID_autoIncrementID_of_ne WasmStore.nextCodeID_ne_nextInstanceID.symm))
  | setAccessConfig _ _ _ _ h => exact .inl (congrArg (·.nextInstanceID) h)
  | pin _ _ h => exact .inl (congrArg (·.nextInstanceID) h)
  | unpin _ h => exact .inl (congrArg (·.nextInstanceID) h)
  | params _ h => exact .inl (congrArg (·.nextInstanceID) h)
  | acknowledged _ _ _ h => exact .inl (congrArg (·.nextInstanceID) h)

/-- The last instance of some code is stored: the sequence of the instances has come to its last
number and has wrapped around. -/
def InstanceSequenceWrapped (k : Keeper ε C) (s : WasmStore) : Prop :=
  ∃ codeID, (s.getContractInfo (k.buildContractAddressClassic codeID lastID)).isSome

theorem Moment.wrapped (h : Moment k d d') (hd : InstanceSequenceWrapped k d.store) :
    InstanceSequenceWrapped k d'.store := by
  obtain ⟨codeID, hstored⟩ := hd
  exact ⟨codeID, h.contract_stays hstored⟩

theorem Moment.unwrapped (h : Moment k d d') (hd : ¬ InstanceSequenceWrapped k d'.store) :
    Moment.Unwrapped k d d' := by
  refine ⟨h, ?_⟩
  cases h with
  | change h =>
      rcases h.core.nextInstanceID with hnext | ⟨hnext, codeID, hstored⟩
      · rw [hnext]
        exact UInt64.le_refl _
      · rw [hnext]
        refine UInt64.le_of_lt (lt_add_one_of_ne_last fun hlast => hd ⟨codeID, ?_⟩)
        rwa [hlast] at hstored
  | packet packet hd' =>
      subst hd'
      exact UInt64.le_refl _

theorem Moments.unwrapped (h : Moments k d d') (hd : ¬ InstanceSequenceWrapped k d'.store) :
    Unwrapped k d d' := by
  induction h with
  | refl => exact .refl
  | tail _ hstep ih => exact .tail (ih fun h => hd (hstep.wrapped h)) (hstep.unwrapped hd)

theorem Changes.moments (h : Changes k true d d') : Moments k d d' := by
  induction h with
  | refl => exact .refl
  | tail _ hstep ih => exact ih.tail (.change hstep)

theorem Kept.moments (h : Kept k true d d') : Moments k d d' := by
  cases h with
  | changes h => exact h.moments
  | packet d₁ packet h hd => exact h.moments.tail (.packet packet hd)

theorem Reached.moments {P : KeeperCall → Prop} {st st' : ChainState ε} (h : Reached k m P st st') :
    Moments k st.durable st'.durable := by
  induction h with
  | refl => exact .refl
  | tail _ hstep ih =>
      have hkept : Kept k true _ _ := hstep.moves fun _ _ _ => rfl
      exact ih.trans hkept.moments

/-- A run at whose end no contract is the last instance of a code: the sequence has not wrapped
around. -/
theorem Reached.unwrapped {P : KeeperCall → Prop} {st st' : ChainState ε}
    (h : Reached k m P st st') (hlast : ¬ InstanceSequenceWrapped k st'.ms.wasm) :
    Unwrapped k st.durable st'.durable :=
  h.moments.unwrapped hlast

/-! ## Two instantiations -/

theorem add_one_ne {n : UInt64} : n + 1 ≠ n := by
  intro h
  have := congrArg UInt64.toNat h
  rw [UInt64.toNat_add, UInt64.toNat_one] at this
  have := n.toNat_lt
  omega

theorem InstantiateCall.stored {c : InstantiateCall}
    {out : AccAddress × ContractInfo × ContractResponse C} (h : c.run k w = (.ok out, w')) :
    (w'.ms.wasm.getContractInfo out.1).isSome := by
  obtain ⟨a, info, res⟩ := out
  obtain ⟨addr, codeInfo, s₁, -, -, -, -, -, -, hregistry, -⟩ := newInstance_ok h
  have hget := congrArg (·.getContractInfo a) hregistry
  have hstored : w'.ms.wasm.getContractInfo a = some info :=
    hget.trans (WasmStore.getContractInfo_storeContractInfo_self _ _ _)
  show (w'.ms.wasm.getContractInfo a).isSome
  rw [hstored]
  rfl

/-- **Contract addresses never collide.**  The keys that are hashed determine what they are made of,
and those of predictable addresses are never those of classic ones.  Take a contract made by the
call `first`, and a call `second` later in the run, with no wrap around of the sequence of the
instances and no collision of the hash on the keys in `K`: a contract made by `second` has another
address; and if the generator of `second` comes to the address of the first, both calls are
`instantiate2` with the same checksum, creator, salt and fixed message, and the keeper rejects it as
a duplicate. -/
theorem addresses_never_collide (k : Keeper ε C) :
    (∀ checksum checksum' creator creator' salt salt' msg msg', checksum.length = 32 →
      checksum'.length = 32 → validateSalt salt = .ok () → validateSalt salt' = .ok () →
      predictableKey checksum creator salt msg = predictableKey checksum' creator' salt' msg' →
      checksum = checksum' ∧ creator = creator' ∧ salt = salt' ∧ msg = msg') ∧
    (∀ checksum creator salt msg codeID instanceID, checksum.length = 32 →
      predictableKey checksum creator salt msg ≠ classicKey codeID instanceID) ∧
    (∀ c c' i i', classicKey c i = classicKey c' i' → c = c' ∧ i = i') ∧
    ∀ (K : Set Bytes), Set.InjOn k.moduleAddress K →
      ∀ (first second : InstantiateCall) (w₁ w₁' w₂ : World (Multistore ε) Shared)
        (out : AccAddress × ContractInfo × ContractResponse C),
      first.run k w₁ = (.ok out, w₁') → Unwrapped k w₁.durable w₁'.durable →
      Unwrapped k w₁'.durable w₂.durable →
      (∀ codeInfo, w₁.ms.wasm.getCodeInfo first.codeID = some codeInfo →
        first.key w₁.ms.wasm codeInfo ∈ K) →
      (∀ codeInfo, w₂.ms.wasm.getCodeInfo second.codeID = some codeInfo →
        second.key w₂.ms.wasm codeInfo ∈ K) →
      (∀ out' w₂', second.run k w₂ = (.ok out', w₂') → out'.1 ≠ out.1) ∧
      ∀ codeInfo w₃, w₂.ms.wasm.getCodeInfo second.codeID = some codeInfo →
        k.generateAddress second.codeID codeInfo.codeHash second.generator w₂ = (.ok out.1, w₃) →
        (∃ codeInfo₁ creator salt msg fix msg' fix',
          w₁.ms.wasm.getCodeInfo first.codeID = some codeInfo₁ ∧
          first.generator = .predictable creator salt msg fix ∧
          second.generator = .predictable creator salt msg' fix' ∧
          codeInfo₁.codeHash = codeInfo.codeHash ∧
          (if fix then msg else []) = (if fix' then msg' else [])) ∧
        ∀ creator, second.policy.canInstantiateContract k.codec codeInfo.instantiateConfig creator =
            .ok true →
          (k.claimAddress second.codeID codeInfo creator second.deposit second.generator
            second.policy w₂).1 = .error (.error (errDuplicate.wrap
              ("contract address already exists, " ++
                "try a different combination of creator, checksum and salt"))) := by
  refine ⟨fun _ _ _ _ _ _ _ _ h h' hs hs' heq => predictableKey_inj h h' hs hs' heq,
    fun _ _ _ _ _ _ h => predictableKey_ne_classicKey h _ _ _ _ _,
      fun _ _ _ _ h => classicKey_inj h,
    fun K hK first second w₁ w₁' w₂ out hfirst hfirstStep hrun hkey hkey' => ?_⟩
  have hstored : (w₂.ms.wasm.getContractInfo out.1).isSome :=
    hrun.contract_stays (InstantiateCall.stored hfirst)
  refine ⟨fun out' w₂' hsecond heq => ?_, fun codeInfo w₃ hcode hgen => ⟨?_, fun creator hallowed =>
    claimAddress_duplicate hallowed hgen hstored⟩⟩
  · obtain ⟨a, info, res⟩ := out'
    obtain ⟨_, _, _, -, -, -, hnew, -⟩ := newInstance_ok hsecond
    rw [← heq, hnew] at hstored
    cases hstored
  · obtain ⟨codeInfo₁, hcode₁, haddr, hvalid, hnext⟩ := InstantiateCall.run_ok hfirst
    obtain ⟨haddr', hvalid'⟩ := generateAddress_key hgen
    have hsame := hK (hkey _ hcode₁) (hkey' _ hcode) (haddr.symm.trans haddr')
    rcases AddressGenerator.key_eq hvalid hvalid' hsame with ⟨hclassic, -, -, heq⟩ | hparts
    · -- the first call has moved the sequence on
      have hmoved := hfirstStep.nextInstanceID_le
      have hlater := hrun.nextInstanceID_le
      have hone : w₁'.durable.store.nextInstanceID = w₁.ms.wasm.nextInstanceID + 1 := hnext hclassic
      have heq : w₂.durable.store.nextInstanceID = w₁.ms.wasm.nextInstanceID := heq.symm
      rw [hone] at hmoved hlater
      rw [heq] at hlater
      exact absurd (UInt64.le_antisymm hmoved hlater) add_one_ne.symm
    · obtain ⟨creator, salt, msg, fix, msg', fix', hg, hg', hsum, hmsg⟩ := hparts
      exact ⟨codeInfo₁, creator, salt, msg, fix, msg', fix', hcode₁, hg, hg', hsum, hmsg⟩

/-! ### Two instances of a code -/

/-- The contract of the code 1, once more. -/
def instantiateAgain : InstantiateCall :=
  ⟨ibcCtx, 1, some ibcCreator, some ibcCreator, [], "label", [], .classic, .default⟩

/-- The worlds before and after the call, and after it is made again. -/
def twiceWorld : Nat → World (Multistore Unit) Shared
  | 0 => wrapStored.world () (.infinite 0) none
  | n + 1 => (instantiateAgain.run wrapKeeper (twiceWorld n)).2

theorem twiceWorld_ok {n : Nat} {out : AccAddress × ContractInfo × ContractResponse Unit}
    (h : (instantiateAgain.run wrapKeeper (twiceWorld n)).1.toOption = some out) :
    instantiateAgain.run wrapKeeper (twiceWorld n) = (.ok out, twiceWorld (n + 1)) :=
  GoM.ok_of_toOption h

theorem addresses_never_collide_twice :
    ∃ out out', (instantiateAgain.run wrapKeeper (twiceWorld 0)).1.toOption = some out ∧
      (instantiateAgain.run wrapKeeper (twiceWorld 1)).1.toOption = some out' ∧ out'.1 ≠ out.1 := by
  have hsome : (instantiateAgain.run wrapKeeper (twiceWorld 0)).1.toOption.isSome = true := by
    decide +kernel
  have hsome' : (instantiateAgain.run wrapKeeper (twiceWorld 1)).1.toOption.isSome = true := by
    decide +kernel
  obtain ⟨out, hout⟩ := Option.isSome_iff_exists.mp hsome
  obtain ⟨out', hout'⟩ := Option.isSome_iff_exists.mp hsome'
  refine ⟨out, out', hout, hout', ?_⟩
  have hfirst := twiceWorld_ok hout
  have hmoved : (twiceWorld 0).durable.store.nextInstanceID ≤
      (twiceWorld 1).durable.store.nextInstanceID := by decide +kernel
  have hstep : Unwrapped wrapKeeper (twiceWorld 0).durable (twiceWorld 1).durable :=
    Relation.ReflTransGen.single ⟨.change (newInstance_change hfirst), hmoved⟩
  have hK : Set.InjOn wrapKeeper.moduleAddress {classicKey 1 1, classicKey 1 2} := by
    have hne : wrapKeeper.moduleAddress (classicKey 1 1) ≠
        wrapKeeper.moduleAddress (classicKey 1 2) := by
      decide +kernel
    rintro x (rfl | rfl) y (rfl | rfl) heq
    · rfl
    · exact absurd heq hne
    · exact absurd heq.symm hne
    · rfl
  have hnext : (twiceWorld 0).ms.wasm.nextInstanceID = 1 := by decide +kernel
  have hnext' : (twiceWorld 1).ms.wasm.nextInstanceID = 2 := by decide +kernel
  refine ((addresses_never_collide wrapKeeper).2.2.2 _ hK instantiateAgain
    instantiateAgain _ _ _ out hfirst hstep .refl (fun _ _ => ?_) fun _ _ => ?_).1 out' _
    (twiceWorld_ok hout')
  · exact .inl (congrArg (classicKey 1) hnext)
  · exact .inr (congrArg (classicKey 1) hnext')

end Wasmd
