import Wasmd.Keeper.Change

/-!
# The codes and their sequence

Codes are only ever added.  What a change can do outside the records of contracts is said once, and
what any number of changes do to the codes follows by induction.

* `CoreChange`, `Change.core` — the store without the records of contracts, after a change.
* `CodesChange` — a change leaves the codes alone, adds the next one, or replaces the instantiate
  permission of one.
* `CodesBelow` — every code lies below the sequence.  `CodeSequenceSpent` — the sequence has come to
  its last number.
* `Changes.codes` — until then, every code stays with its checksum and its creator.
-/

namespace Wasmd

open ByteStore KVStore Effects Gas

variable {ε C : Type} {k : Keeper ε C} {sim : Bool} {d d' : Durable}

/-! ## Sequences -/

namespace WasmStore

variable (s : WasmStore)

@[simp] theorem peekAutoIncrementID_autoIncrementID_self (key : Bytes) :
    (s.autoIncrementID key).2.peekAutoIncrementID key = s.peekAutoIncrementID key + 1 := by
  unfold autoIncrementID peekAutoIncrementID
  rw [getElem?_insert_self]
  simp

theorem peekAutoIncrementID_autoIncrementID_of_ne {key key' : Bytes} (h : key' ≠ key) :
    (s.autoIncrementID key).2.peekAutoIncrementID key' = s.peekAutoIncrementID key' := by
  unfold autoIncrementID
  show Option.getD (Option.map _ _) 1 = _
  rw [getElem?_insert_of_ne _ _ h]
  rfl

/-- The id the next code gets. -/
def nextCodeID : UInt64 := s.peekAutoIncrementID keySequenceCodeID

/-- The id the next contract with a classic address gets. -/
def nextInstanceID : UInt64 := s.peekAutoIncrementID keySequenceInstanceID

theorem nextCodeID_ne_nextInstanceID : keySequenceCodeID ≠ keySequenceInstanceID := by decide

end WasmStore

theorem isSome_getCodeInfo_storeCodeInfo {s : WasmStore} {codeID : UInt64} {info : CodeInfo}
    (id : UInt64) : ((s.storeCodeInfo codeID info).getCodeInfo id).isSome ↔
      (s.getCodeInfo id).isSome ∨ codeID = id := by
  by_cases h : id = codeID
  · subst h
    simp
  · rw [WasmStore.getCodeInfo_storeCodeInfo_of_ne _ _ h]
    simp [Ne.symm h]

/-! ## Outside the records of contracts -/

/-- The store without the records of contracts and their storage. -/
def WasmStore.withoutContracts (s : WasmStore) : WasmStore :=
  { s with
    contracts := ∅
    contractState := ∅
    history := ∅
    codeIndex := ∅
    creatorIndex := ∅ }

/-- **What a change does outside the records of contracts.** -/
inductive CoreChange (k : Keeper ε C) (s s' : WasmStore) : Prop
  | same (h : s'.withoutContracts = s.withoutContracts)
  | claimed (codeID : UInt64)
      (hstored : (s'.getContractInfo
        (k.buildContractAddressClassic codeID s.nextInstanceID)).isSome)
      (h : s'.withoutContracts = (s.autoIncrementID keySequenceInstanceID).2.withoutContracts)
  | create (info : CodeInfo) (h : s'.withoutContracts =
      ((s.autoIncrementID keySequenceCodeID).2.storeCodeInfo s.nextCodeID info).withoutContracts)
  | setAccessConfig (codeID : UInt64) (info : CodeInfo) (config : AccessConfig)
      (hinfo : s.getCodeInfo codeID = some info) (h : s'.withoutContracts =
        (s.storeCodeInfo codeID { info with instantiateConfig := config }).withoutContracts)
  | pin (codeID : UInt64) (hcode : (s.getCodeInfo codeID).isSome) (h : s'.withoutContracts =
      { s with pinned := s.pinned.insert (pinnedCodeIndexPrefix codeID) () }.withoutContracts)
  | unpin (codeID : UInt64) (h : s'.withoutContracts =
      { s with pinned := s.pinned.erase (pinnedCodeIndexPrefix codeID) }.withoutContracts)
  | params (params : Params) (h : s'.withoutContracts =
      { s with params := some params }.withoutContracts)
  | acknowledged (port channel : String) (sequence : UInt64) (h : s'.withoutContracts =
      (s.deleteAsyncAckPacket port channel sequence).withoutContracts)

theorem withoutContracts_of_registry {s s' : WasmStore} (h : s'.registry = s.registry) :
    s'.withoutContracts = s.withoutContracts := by
  have := congrArg WasmStore.withoutContracts h
  exact this

theorem Change.core (h : Change k sim d d') : CoreChange k d.store d'.store := by
  cases h with
  | ran contract hstored hregistry => exact .same (withoutContracts_of_registry hregistry)
  | files hstore => exact .same (by rw [hstore])
  | create creator config code hstore =>
    exact .create _ (congrArg WasmStore.withoutContracts hstore)
  | setAccessConfig codeID info config hinfo hstore =>
      exact .setAccessConfig codeID info config hinfo (congrArg WasmStore.withoutContracts hstore)
  | instantiate ctx codeID codeInfo creator contract admin label info initMsg s₁ hnew hcode haddr
      hinfo hregistry =>
      have hrest : d'.store.withoutContracts = s₁.withoutContracts :=
        (withoutContracts_of_registry hregistry).trans rfl
      cases haddr with
      | classic =>
          refine .claimed codeID ?_ hrest
          have hget := congrArg (·.getContractInfo (k.buildContractAddressClassic codeID
            d.store.nextInstanceID)) hregistry
          rw [show d'.store.getContractInfo _ = _ from hget]
          exact Option.isSome_iff_exists.mpr
            ⟨info, WasmStore.getContractInfo_storeContractInfo_self _ _ _⟩
      | predictable _ => exact .same hrest
  | migrate codeID codeInfo contract old info last position msg hold hcode hinfo hlast hregistry =>
      have hrest : d'.store.withoutContracts = d.store.withoutContracts :=
        (withoutContracts_of_registry hregistry).trans rfl
      exact .same hrest
  | modify contract old info hold hinfo hstore =>
      exact .same ((congrArg WasmStore.withoutContracts hstore).trans rfl)
  | pin codeID hcode hstore => exact .pin codeID hcode (congrArg WasmStore.withoutContracts hstore)
  | unpin codeID hstore => exact .unpin codeID (congrArg WasmStore.withoutContracts hstore)
  | params params hstore => exact .params params (congrArg WasmStore.withoutContracts hstore)
  | acknowledged contract port channel sequence packet ack hload hstore =>
      exact .acknowledged port channel sequence (congrArg WasmStore.withoutContracts hstore)

/-- The plain bytes stay. -/
theorem CoreChange.raw_eq {s s' : WasmStore} (h : CoreChange k s s') : s'.raw = s.raw := by
  cases h with
  | same h => exact congrArg (·.raw) h
  | claimed _ _ h => exact congrArg (·.raw) h
  | create _ h => exact congrArg (·.raw) h
  | setAccessConfig _ _ _ _ h => exact congrArg (·.raw) h
  | pin _ _ h => exact congrArg (·.raw) h
  | unpin _ h => exact congrArg (·.raw) h
  | params _ h => exact congrArg (·.raw) h
  | acknowledged _ _ _ h => exact congrArg (·.raw) h

/-! ## What a change does to the codes -/

/-- **What a change does to the codes.** -/
inductive CodesChange (s s' : WasmStore) : Prop
  | same (hcodes : s'.codes = s.codes) (hnext : s'.nextCodeID = s.nextCodeID)
  | create (info : CodeInfo) (hcodes : s'.codes = (s.storeCodeInfo s.nextCodeID info).codes)
      (hnext : s'.nextCodeID = s.nextCodeID + 1)
  | setAccessConfig (codeID : UInt64) (info : CodeInfo) (config : AccessConfig)
      (hinfo : s.getCodeInfo codeID = some info)
      (hcodes : s'.codes = (s.storeCodeInfo codeID { info with instantiateConfig := config }).codes)
      (hnext : s'.nextCodeID = s.nextCodeID)

theorem CoreChange.codes {s s' : WasmStore} (h : CoreChange k s s') : CodesChange s s' := by
  have hsame : ∀ {t : WasmStore}, s'.withoutContracts = t.withoutContracts →
      t.codes = s.codes → t.nextCodeID = s.nextCodeID → CodesChange s s' := fun h hcodes hnext =>
    .same ((congrArg (·.codes) h).trans hcodes) ((congrArg (·.nextCodeID) h).trans hnext)
  cases h with
  | same h => exact hsame h rfl rfl
  | claimed _ _ h =>
      exact hsame h rfl (s.peekAutoIncrementID_autoIncrementID_of_ne
        WasmStore.nextCodeID_ne_nextInstanceID)
  | create info h =>
      exact .create info (congrArg (·.codes) h) ((congrArg (·.nextCodeID) h).trans
        (s.peekAutoIncrementID_autoIncrementID_self keySequenceCodeID))
  | setAccessConfig codeID info config hinfo h =>
      exact .setAccessConfig codeID info config hinfo (congrArg (·.codes) h)
        (congrArg (·.nextCodeID) h)
  | pin _ _ h => exact hsame h rfl rfl
  | unpin _ h => exact hsame h rfl rfl
  | params _ h => exact hsame h rfl rfl
  | acknowledged _ _ _ h => exact hsame h rfl rfl

namespace CodesChange

variable {s s' : WasmStore}

/-- The record at an id: only its instantiate permission can be replaced, except at the next id. -/
theorem code_kept (h : CodesChange s s') {id : UInt64} {info : CodeInfo}
    (hinfo : s.getCodeInfo id = some info) (hid : id ≠ s.nextCodeID) :
    ∃ config, s'.getCodeInfo id = some { info with instantiateConfig := config } := by
  cases h with
  | same hcodes =>
    exact ⟨info.instantiateConfig, by rw [WasmStore.getCodeInfo, hcodes]; exact hinfo⟩
  | create new hcodes =>
      refine ⟨info.instantiateConfig, ?_⟩
      rw [WasmStore.getCodeInfo, hcodes]
      exact (WasmStore.getCodeInfo_storeCodeInfo_of_ne _ _ hid).trans hinfo
  | setAccessConfig codeID old config hold hcodes =>
      rw [WasmStore.getCodeInfo, hcodes]
      by_cases heq : id = codeID
      · subst heq
        obtain rfl : old = info := Option.some.inj (hold.symm.trans hinfo)
        exact ⟨config, WasmStore.getCodeInfo_storeCodeInfo_self _ _ _⟩
      · exact ⟨info.instantiateConfig,
          (WasmStore.getCodeInfo_storeCodeInfo_of_ne _ _ heq).trans hinfo⟩

/-- A new record is at the next id. -/
theorem code_new (h : CodesChange s s') {id : UInt64} (hid : (s'.getCodeInfo id).isSome) :
    (s.getCodeInfo id).isSome ∨ id = s.nextCodeID ∧ s'.nextCodeID = s.nextCodeID + 1 := by
  cases h with
  | same hcodes =>
      rw [WasmStore.getCodeInfo, hcodes] at hid
      exact .inl hid
  | create new hcodes hnext =>
      rw [WasmStore.getCodeInfo, hcodes] at hid
      exact ((isSome_getCodeInfo_storeCodeInfo id).mp hid).imp_right fun h => ⟨h.symm, hnext⟩
  | setAccessConfig codeID old config hold hcodes =>
      rw [WasmStore.getCodeInfo, hcodes] at hid
      rcases (isSome_getCodeInfo_storeCodeInfo id).mp hid with hid | rfl
      · exact .inl hid
      · exact .inl (by rw [hold]; rfl)

theorem nextCodeID_eq (h : CodesChange s s') :
    s'.nextCodeID = s.nextCodeID ∨
      s'.nextCodeID = s.nextCodeID + 1 ∧ (s'.getCodeInfo s.nextCodeID).isSome := by
  cases h with
  | same _ hnext => exact .inl hnext
  | create new hcodes hnext =>
      refine .inr ⟨hnext, ?_⟩
      rw [WasmStore.getCodeInfo, hcodes]
      exact Option.isSome_iff_exists.mpr ⟨new, WasmStore.getCodeInfo_storeCodeInfo_self _ _ _⟩
  | setAccessConfig _ _ _ _ _ hnext => exact .inl hnext

end CodesChange

/-! ## Every code lies below the sequence -/

/-- Every stored code has an id below the next one. -/
def CodesBelow (s : WasmStore) : Prop :=
  ∀ id, (s.getCodeInfo id).isSome → id < s.nextCodeID

/-- The last id of the sequence. -/
def lastID : UInt64 := 0xffffffffffffffff

/-- The sequence of the codes has come to its last number: it is the next id, or was given out. -/
def CodeSequenceSpent (s : WasmStore) : Prop :=
  s.nextCodeID = lastID ∨ (s.getCodeInfo lastID).isSome

theorem lt_add_one_of_ne_last {n : UInt64} (h : n ≠ lastID) : n < n + 1 := by
  have hn : n.toNat ≠ lastID.toNat := fun heq => h (UInt64.toNat_inj.mp heq)
  have hlast : lastID.toNat = 2 ^ 64 - 1 := by decide
  have hlt := n.toNat_lt
  rw [UInt64.lt_iff_toNat_lt, UInt64.toNat_add, UInt64.toNat_one, Nat.mod_eq_of_lt (by omega)]
  omega

theorem CodesChange.spent {s s' : WasmStore} (h : CodesChange s s') (hs : CodeSequenceSpent s) :
    CodeSequenceSpent s' := by
  rcases hs with hs | hs
  · rcases h.nextCodeID_eq with hnext | ⟨-, hnew⟩
    · exact .inl (hnext.trans hs)
    · exact .inr (hs ▸ hnew)
  · obtain ⟨info, hinfo⟩ := Option.isSome_iff_exists.mp hs
    rcases h.nextCodeID_eq with hnext | ⟨-, hnew⟩
    · by_cases hlast : lastID = s.nextCodeID
      · exact .inl (hnext.trans hlast.symm)
      · obtain ⟨config, hkept⟩ := h.code_kept hinfo hlast
        exact .inr (by rw [hkept]; rfl)
    · by_cases hlast : lastID = s.nextCodeID
      · exact .inr (hlast ▸ hnew)
      · obtain ⟨config, hkept⟩ := h.code_kept hinfo hlast
        exact .inr (by rw [hkept]; rfl)

theorem CodesChange.below {s s' : WasmStore} (h : CodesChange s s') (hs : CodesBelow s)
    (hspent : ¬ CodeSequenceSpent s) : CodesBelow s' := by
  have hlt : s.nextCodeID < s.nextCodeID + 1 := lt_add_one_of_ne_last fun heq => hspent (.inl heq)
  intro id hid
  rcases h.code_new hid with hold | ⟨rfl, hnext⟩
  · rcases h.nextCodeID_eq with hnext | ⟨hnext, -⟩
    · rw [hnext]
      exact hs id hold
    · rw [hnext]
      exact UInt64.lt_trans (hs id hold) hlt
  · rw [hnext]
    exact hlt

/-! ## Any number of changes -/

/-- The same code: only the instantiate permission may differ. -/
def SameCode (old new : CodeInfo) : Prop := new.codeHash = old.codeHash ∧ new.creator = old.creator

/-- Every code of the first store is in the second. -/
def CodesStay (s s' : WasmStore) : Prop :=
  ∀ id info, s.getCodeInfo id = some info → ∃ info', s'.getCodeInfo id = some info' ∧
    SameCode info info'

theorem CodesStay.refl (s : WasmStore) : CodesStay s s :=
  fun _ info hinfo => ⟨info, hinfo, rfl, rfl⟩

theorem CodesStay.trans {s s' s'' : WasmStore} (h : CodesStay s s') (h' : CodesStay s' s'') :
    CodesStay s s'' := by
  intro id info hinfo
  obtain ⟨info', hinfo', hsame⟩ := h id info hinfo
  obtain ⟨info'', hinfo'', hsame'⟩ := h' id info' hinfo'
  exact ⟨info'', hinfo'', hsame'.1.trans hsame.1, hsame'.2.trans hsame.2⟩

/-- What holds at the end of a stretch of a run. -/
structure CodesGrown (s s' : WasmStore) : Prop where
  below : CodesBelow s'
  kept : CodesStay s s'
  raw : s'.raw = s.raw

theorem CodesGrown.trans {s s' s'' : WasmStore} (h : CodesGrown s s') (h' : CodesGrown s' s'') :
    CodesGrown s s'' :=
  ⟨h'.below, h.kept.trans h'.kept, h'.raw.trans h.raw⟩

theorem CodesChange.grown {s s' : WasmStore} (h : CodesChange s s') (hraw : s'.raw = s.raw)
    (hs : CodesBelow s) (hspent : ¬ CodeSequenceSpent s) : CodesGrown s s' := by
  refine ⟨h.below hs hspent, fun id info hinfo => ?_, hraw⟩
  have hid : id ≠ s.nextCodeID := by
    rintro rfl
    exact absurd (hs _ (by rw [hinfo]; rfl)) (UInt64.lt_irrefl _)
  obtain ⟨config, hkept⟩ := h.code_kept hinfo hid
  exact ⟨_, hkept, rfl, rfl⟩

/-- **Any number of changes**: unless the sequence is spent at the end, the codes have only
grown. -/
theorem Changes.codes (h : Changes k sim d d') (hd : CodesBelow d.store) :
    CodeSequenceSpent d'.store ∨ CodesGrown d.store d'.store := by
  induction h with
  | refl => exact .inr ⟨hd, .refl _, rfl⟩
  | tail _ hstep ih =>
      have hcodes := hstep.core.codes
      rcases ih with hspent | hgrown
      · exact .inl (hcodes.spent hspent)
      · rename_i d₁ d₂ _
        by_cases hspent : CodeSequenceSpent d₁.store
        · exact .inl (hcodes.spent hspent)
        · exact .inr (hgrown.trans (hcodes.grown hstep.core.raw_eq hgrown.below hspent))

theorem Changes.codes_spent (h : Changes k sim d d') (hd : CodeSequenceSpent d.store) :
    CodeSequenceSpent d'.store := by
  induction h with
  | refl => exact hd
  | tail _ hstep ih => exact hstep.core.codes.spent ih

end Wasmd
