import Wasmd.Keeper.Import
import Wasmd.Keeper.Runs

/-!
# The codes over whole runs

The codes grow along every run, from an empty store or from one that was imported.

* `CodesStart` — where a run starts; `initGenesis_codes` — an accepted genesis state establishes
  that every code lies below the sequence.
* `Reached.codes` — the codes along a run.
* `codes_append_only` — **the codes are append-only** along every run.
-/

namespace Wasmd

open ByteStore KVStore Effects Gas

variable {ε C : Type} {k : Keeper ε C} {m : Messenger ε C} {sim : Bool} {d d' : Durable}

/-! ## Calls from outside -/

theorem Kept.codes (h : Kept k sim d d') (hd : CodesBelow d.store) :
    CodeSequenceSpent d'.store ∨ CodesGrown d.store d'.store := by
  cases h with
  | changes h => exact h.codes hd
  | packet d₁ packet h hd' =>
      subst hd'
      exact (h.codes hd).imp id fun hgrown => ⟨hgrown.below, hgrown.kept, hgrown.raw⟩

theorem Kept.codes_spent (h : Kept k sim d d') (hd : CodeSequenceSpent d.store) :
    CodeSequenceSpent d'.store := by
  cases h with
  | changes h => exact h.codes_spent hd
  | packet d₁ packet h hd' =>
      subst hd'
      exact h.codes_spent hd

/-! ## Where a run starts -/

/-- No sequence of the genesis state lies under the key of a code. -/
def GenesisState.KeepsCodeKeys (data : GenesisState) : Prop :=
  ∀ seq ∈ data.sequences, ∀ id, seq.idKey ≠ codeKey id

/-- A chain without codes, or one whose store was imported. -/
inductive CodesStart (k : Keeper ε C) : ChainState ε → Prop
  | initial (params : Option Params) (ext : ε) : CodesStart k (.initial params ext)
  | imported (data : GenesisState) (w w' : World (Multistore ε) Shared)
      (hempty : w.ms.wasm = .empty) (himport : k.initGenesis data w = (.ok (), w'))
      (hkeys : data.KeepsCodeKeys) : CodesStart k ⟨w'.ms, w'.shared.vm⟩

theorem le_foldl_maxCodeID (codes : List Code) (n : UInt64) :
    n ≤ codes.foldl
      (fun greatest code => if greatest < code.codeID then code.codeID else greatest) n ∧
      ∀ c ∈ codes, c.codeID ≤ codes.foldl
        (fun greatest code => if greatest < code.codeID then code.codeID else greatest) n := by
  induction codes generalizing n with
  | nil => simp
  | cons c rest ih =>
      obtain ⟨hstart, hrest⟩ := ih (if n < c.codeID then c.codeID else n)
      have hmax : n ≤ (if n < c.codeID then c.codeID else n) ∧
          c.codeID ≤ (if n < c.codeID then c.codeID else n) := by
        split_ifs with hlt
        · exact ⟨UInt64.le_of_lt hlt, UInt64.le_refl _⟩
        · exact ⟨UInt64.le_refl _, UInt64.not_lt.mp hlt⟩
      refine ⟨UInt64.le_trans hmax.1 hstart, fun c' hc' => ?_⟩
      rcases List.mem_cons.mp hc' with rfl | hc'
      · exact UInt64.le_trans hmax.2 hstart
      · exact hrest c' hc'

/-- Every code that `containsCodeInfo` finds can be read. -/
def CodesReadable (s : WasmStore) : Prop :=
  ∀ id, s.containsCodeInfo id = true → (s.getCodeInfo id).isSome

/-- An accepted genesis state: its codes lie below the sequence. -/
theorem initGenesis_codes {data : GenesisState} {w w' : World (Multistore ε) Shared}
    (hempty : w.ms.wasm = .empty) (h : k.initGenesis data w = (.ok (), w'))
    (hkeys : data.KeepsCodeKeys) : CodesBelow w'.ms.wasm ∧ CodesReadable w'.ms.wasm := by
  obtain ⟨w₁, -, hrecords, hsequences⟩ := initGenesis_ok hempty h
  have hget : ∀ id, w'.ms.wasm.getCodeInfo id = w₁.ms.wasm.getCodeInfo id :=
    fun id => congrArg (·.getCodeInfo id) hsequences.records
  constructor
  · intro id hid
    rw [hget] at hid
    obtain ⟨c, hc, rfl⟩ := (hrecords.codes id).mp hid
    obtain ⟨_, w₂, -, h₁⟩ := GoM.bind_ok_iff.mp h
    obtain ⟨_, w₃, -, h₂⟩ := GoM.bind_ok_iff.mp h₁
    obtain ⟨rfl, hmax⟩ := checkSequences_ok h₂
    exact UInt64.lt_of_le_of_lt ((le_foldl_maxCodeID data.codes 0).2 c hc) hmax
  · intro id hid
    rcases (hsequences.has (codeKey id)).mp hid with hbefore | ⟨seq, hseq, hkey⟩
    · have hcontains : w₁.ms.wasm.containsCodeInfo id = true := hbefore
      rw [WasmStore.containsCodeInfo_eq, hrecords.raw] at hcontains
      rw [hget]
      simpa using hcontains
    · exact absurd hkey (hkeys seq hseq id)

theorem CodesStart.codes {start : ChainState ε} (h : CodesStart k start) :
    CodesBelow start.ms.wasm ∧ CodesReadable start.ms.wasm := by
  cases h with
  | initial params ext =>
      have hnone : ∀ id, (ChainState.initial params ext).ms.wasm.getCodeInfo id = none :=
        fun _ => rfl
      have hcontains : ∀ id, (ChainState.initial params ext).ms.wasm.containsCodeInfo id = false :=
        fun _ => rfl
      refine ⟨fun id hid => ?_, fun id hid => ?_⟩
      · rw [hnone] at hid
        cases hid
      · rw [hcontains] at hid
        cases hid
  | imported data w w' hempty himport hkeys => exact initGenesis_codes hempty himport hkeys

/-! ## Append-only -/

theorem CodesGrown.readable {s s' : WasmStore} (h : CodesGrown s s') (hs : CodesReadable s) :
    CodesReadable s' := by
  intro id hid
  rw [WasmStore.containsCodeInfo_eq, h.raw, Bool.or_eq_true] at hid
  rcases hid with hid | hraw
  · exact hid
  · have hstored := hs id (by rw [WasmStore.containsCodeInfo_eq, hraw, Bool.or_true])
    obtain ⟨info, hinfo⟩ := Option.isSome_iff_exists.mp hstored
    obtain ⟨info', hinfo', -⟩ := h.kept id info hinfo
    rw [hinfo']
    rfl

theorem Reached.codes_spent {P : KeeperCall → Prop} {st st' : ChainState ε}
    (h : Reached k m P st st') (hst : CodeSequenceSpent st.ms.wasm) :
    CodeSequenceSpent st'.ms.wasm := by
  induction h with
  | refl => exact hst
  | tail _ hstep ih =>
      have hkept : Kept k true _ _ := hstep.moves fun _ _ _ => rfl
      exact hkept.codes_spent ih

theorem Reached.codes {P : KeeperCall → Prop} {st st' : ChainState ε} (h : Reached k m P st st')
    (hst : CodesBelow st.ms.wasm) :
    CodeSequenceSpent st'.ms.wasm ∨ CodesGrown st.ms.wasm st'.ms.wasm := by
  induction h with
  | refl => exact .inr ⟨hst, .refl _, rfl⟩
  | tail _ hstep ih =>
      rename_i st₁ st₂ _
      have hkept : Kept k true st₁.durable st₂.durable := hstep.moves fun _ _ _ => rfl
      rcases ih with hspent | hgrown
      · exact .inl (hkept.codes_spent hspent)
      · rcases hkept.codes hgrown.below with hspent | hnext
        · exact .inl hspent
        · exact .inr (hgrown.trans hnext)

/-- Of all changes only a successful `setAccessConfig` on a code replaces its instantiate
permission. -/
theorem Change.instantiateConfig (h : Change k sim d d') {id : UInt64} {info info' : CodeInfo}
    (hbelow : CodesBelow d.store) (hinfo : d.store.getCodeInfo id = some info)
    (hinfo' : d'.store.getCodeInfo id = some info')
    (hne : info'.instantiateConfig ≠ info.instantiateConfig) :
    ∃ caller authZ w w' u, k.setAccessConfig id caller info'.instantiateConfig authZ w =
      (.ok u, w') ∧ w.durable = d ∧ w'.durable = d' := by
  have hsame : d'.store.getCodeInfo id ≠ d.store.getCodeInfo id := by
    intro heq
    rw [heq, hinfo] at hinfo'
    cases hinfo'
    exact hne rfl
  cases h with
  | ran contract hstored hregistry => exact absurd (congrArg (·.getCodeInfo id) hregistry) hsame
  | files hstore => exact absurd (by rw [hstore]) hsame
  | create creator config code hstore =>
      have hid : id ≠ d.store.nextCodeID := by
        rintro rfl
        exact UInt64.lt_irrefl _ (hbelow _ (by rw [hinfo]; rfl))
      refine absurd ?_ hsame
      rw [hstore]
      exact WasmStore.getCodeInfo_storeCodeInfo_of_ne _ _ hid
  | setAccessConfig codeID old config hold hstore hquiet hcall =>
      by_cases heq : id = codeID
      · subst heq
        rw [hstore, WasmStore.getCodeInfo_storeCodeInfo_self] at hinfo'
        cases hinfo'
        exact hcall
      · refine absurd ?_ hsame
        rw [hstore]
        exact WasmStore.getCodeInfo_storeCodeInfo_of_ne _ _ heq
  | instantiate ctx codeID codeInfo creator contract admin label new initMsg s₁ hnew hcode haddr
      hinfo₁ hregistry =>
      have hcodes : s₁.codes = d.store.codes := by cases haddr <;> rfl
      have hget : d'.store.codes = s₁.codes := congrArg (·.codes) hregistry
      exact absurd (by rw [WasmStore.getCodeInfo, hget, hcodes]; rfl) hsame
  | migrate codeID codeInfo contract old new last position msg hold hcode hinfo₁ hlast hregistry =>
      exact absurd (congrArg (·.getCodeInfo id) hregistry) hsame
  | modify contract old new hold hnew hstore => exact absurd (by rw [hstore]; rfl) hsame
  | pin codeID hcode hstore => exact absurd (by rw [hstore]; rfl) hsame
  | unpin codeID hstore => exact absurd (by rw [hstore]; rfl) hsame
  | params params hstore => exact absurd (by rw [hstore]; rfl) hsame
  | acknowledged contract port channel sequence packet ack hload hstore =>
      exact absurd (by rw [hstore]; rfl) hsame

/-- **The codes are append-only.**  Take any point of a run from an empty store, or from one that
was imported with no sequence under the key of a code: a state `st` the run leads to, a later state
`st'`, and the world `w` at some moment of the call made then.  Unless the sequence of the codes has
come to its last number: a code stored now gets an id above all ids stored before; every code of
`st` is still there, with its checksum and its creator; and the next change replaces the instantiate
permission of a code only if it is a successful `setAccessConfig` on it. -/
theorem codes_append_only (k : Keeper ε C) (m : Messenger ε C) (start st st' : ChainState ε)
    (hstart : CodesStart k start) (hrun : Reached k m (fun _ => True) start st)
    (hlater : Reached k m (fun _ => True) st st') (w : World (Multistore ε) Shared)
    (hw : Changes k true st'.durable w.durable) (hspent : ¬ CodeSequenceSpent w.ms.wasm) :
    (∀ ctx creator code access authZ id checksum w',
      k.create ctx creator code access authZ w = (.ok (id, checksum), w') →
        ∀ id', w.ms.wasm.containsCodeInfo id' = true → id' < id) ∧
      (∀ id info, st.ms.wasm.getCodeInfo id = some info →
        ∃ info', w.ms.wasm.getCodeInfo id = some info' ∧ info'.codeHash = info.codeHash ∧
          info'.creator = info.creator) ∧
      ∀ d', Change k true w.durable d' → ∀ id info info', w.ms.wasm.getCodeInfo id = some info →
        d'.store.getCodeInfo id = some info' → info'.instantiateConfig ≠ info.instantiateConfig →
        ∃ caller authZ w₁ w₂ u, k.setAccessConfig id caller info'.instantiateConfig authZ w₁ =
          (.ok u, w₂) ∧ w₁.durable = w.durable ∧ w₂.durable = d' := by
  obtain ⟨hbelow, hreadable⟩ := hstart.codes
  -- the sequence was never spent before
  have hst' : ¬ CodeSequenceSpent st'.ms.wasm := fun h => hspent (hw.codes_spent h)
  have hst : ¬ CodeSequenceSpent st.ms.wasm := fun h => hst' (hlater.codes_spent h)
  have hbefore := (hrun.codes hbelow).resolve_left hst
  have hbetween := (hlater.codes hbefore.below).resolve_left hst'
  have hnow : CodesGrown st.ms.wasm w.ms.wasm :=
    hbetween.trans ((hw.codes hbetween.below).resolve_left hspent)
  refine ⟨fun ctx creator code access authZ id checksum w' hcreate id' hid' => ?_, hnow.kept,
    fun d' hchange id info info' hinfo hinfo' hne =>
      hchange.instantiateConfig hnow.below hinfo hinfo' hne⟩
  obtain ⟨_, _, _, _, -, -, -, -, hout, -⟩ := create_ok hcreate
  obtain ⟨rfl, -⟩ := Prod.mk.inj hout
  exact hnow.below id' ((hbefore.trans hnow).readable hreadable id' hid')

/-! ### One code imported -/

/-- The chain after the import of a genesis state. -/
def importedChain (data : GenesisState) : ChainState Unit :=
  ⟨(importOf data).2.ms, (importOf data).2.shared.vm⟩

theorem importedChain_start {data : GenesisState} (h : (importOf data).1.toOption = some ())
    (hkeys : data.KeepsCodeKeys) : CodesStart (plainKeeper Unit) (importedChain data) :=
  .imported data _ (importOf data).2 rfl (importOf_ok h) hkeys

/-- The world the next call is made in. -/
def importedWorld (data : GenesisState) : World (Multistore Unit) Shared :=
  (importedChain data).world () (.infinite 0) none

theorem importedWorld_reached (data : GenesisState) :
    Changes (plainKeeper Unit) true (importedChain data).durable (importedWorld data).durable :=
  .refl

/-- Another code is stored. -/
def createSecond (data : GenesisState) :
    Except (Failure GoError) (UInt64 × Bytes) × World (Multistore Unit) Shared :=
  (plainKeeper Unit).create ibcCtx (some genesisCreator) [2] none .default (importedWorld data)

theorem createSecond_ok {data : GenesisState} {out : UInt64 × Bytes}
    (h : (createSecond data).1.toOption = some out) :
    (plainKeeper Unit).create ibcCtx (some genesisCreator) [2] none .default (importedWorld data) =
      (.ok out, (createSecond data).2) :=
  GoM.ok_of_toOption h

/-- The code 1 was imported, and the sequence of the codes is at 2. -/
theorem codes_append_only_second :
    (createSecond (genesisWith 1 1 [])).1.toOption =
        some (2, (plainKeeper Unit).wasmVM.checksum [2]) ∧
      ∀ id, (importedWorld (genesisWith 1 1 [])).ms.wasm.containsCodeInfo id = true → id < 2 := by
  have hkeys : (genesisWith 1 1 []).KeepsCodeKeys := by
    intro seq hseq id hkey
    have hfirst : ∀ seq ∈ (genesisWith 1 1 []).sequences, seq.idKey.head? = some 0x04 := by decide
    have hhead := hfirst seq hseq
    rw [hkey] at hhead
    exact absurd hhead (by simp [codeKey])
  have hcreate : (createSecond (genesisWith 1 1 [])).1.toOption =
      some (2, (plainKeeper Unit).wasmVM.checksum [2]) := by decide +kernel
  have hspent : ¬ CodeSequenceSpent (importedWorld (genesisWith 1 1 [])).ms.wasm := by
    unfold CodeSequenceSpent
    decide +kernel
  exact ⟨hcreate, (codes_append_only (plainKeeper Unit) sendMessenger _ _ _
    (importedChain_start (by decide +kernel) hkeys) .refl .refl _ (importedWorld_reached _)
    hspent).1 _ _ _ _ _ _ _ _ (createSecond_ok hcreate)⟩

/-- A sequence of the genesis state lies under the key of the code 7.  That code is stored then, and
the next one gets the id 2. -/
theorem codes_not_append_only :
    plainLib.validateGenesis (plainKeeper Unit).codec (genesisWith 1 1 [⟨codeKey 7, 1⟩]) = .ok () ∧
      (importOf (genesisWith 1 1 [⟨codeKey 7, 1⟩])).1 = .ok () ∧
      (importedWorld (genesisWith 1 1 [⟨codeKey 7, 1⟩])).ms.wasm.containsCodeInfo 7 = true ∧
      ¬ CodeSequenceSpent (importedWorld (genesisWith 1 1 [⟨codeKey 7, 1⟩])).ms.wasm ∧
      (createSecond (genesisWith 1 1 [⟨codeKey 7, 1⟩])).1.toOption.map (·.1) = some 2 := by
  unfold CodeSequenceSpent
  decide +kernel

end Wasmd
