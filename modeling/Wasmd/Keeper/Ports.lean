import Wasmd.Keeper.Calls

/-!
# The IBC ports of a contract

A contract whose code has IBC entry points gets a port when it is instantiated with such a code or
migrated to one.

* `PortsWellFormed`, `PortsAgree` — the ports of a contract are those of its address, and the IBC
  port is set exactly if the current code has IBC entry points.
* `PortRun` — runs of instantiations and migrations.
* `port_life_cycle` — the ports over whole runs.
-/

namespace Wasmd

open ByteStore Effects Gas

variable {ε C : Type} {k : Keeper ε C}

theorem portIDForContract_ne_empty (codec : AddressCodec) (a : AccAddress) :
    portIDForContract codec a ≠ "" := by
  simp [portIDForContract, portIDPrefix, String.append_eq_empty_iff]

/-! ## The ports of a contract -/

/-- The ports are those of the address, if they are set. -/
structure PortsWellFormed (k : Keeper ε C) (a : AccAddress) (info : ContractInfo) : Prop where
  ibcPortID : info.ibcPortID = "" ∨ info.ibcPortID = portIDForContract k.codec a
  ibc2PortID : info.ibc2PortID = portIDForContractV2 k.codec k.hrp a

/-- The IBC port is set exactly if the code of the contract has IBC entry points. -/
structure PortsAgree (k : Keeper ε C) (s : WasmStore) (a : AccAddress) (info : ContractInfo) : Prop
    extends PortsWellFormed k a info where
  ibc_iff : ∃ codeInfo report, s.getCodeInfo info.codeID = some codeInfo ∧
    k.wasmVM.analyze codeInfo.codeHash = .ok report ∧
    (info.ibcPortID ≠ "" ↔ report.hasIBCEntryPoints = true)

/-- Stored codes keep their checksums. -/
def CodesKept (s s' : WasmStore) : Prop :=
  ∀ id info, s.getCodeInfo id = some info →
    ∃ info', s'.getCodeInfo id = some info' ∧ info'.codeHash = info.codeHash

/-! ## One change -/

section Step

variable {s s' : WasmStore} {a : AccAddress} {old info : ContractInfo}

theorem PortsWellFormed.of_change {o o' : Option ContractInfo} (h : ContractChange k s a o o')
    (hold : ∀ info, o = some info → PortsWellFormed k a info) (info : ContractInfo)
    (hinfo : o' = some info) : PortsWellFormed k a info := by
  cases h with
  | same => exact hold info hinfo
  | instantiated _ _ hnew =>
      obtain rfl := Option.some.inj hinfo
      obtain ⟨report, -, hport⟩ := hnew.ibcPortID
      refine ⟨?_, hnew.ibc2PortID⟩
      rw [hport]
      split
      · exact .inr rfl
      · exact .inl rfl
  | migrated _ hmig =>
      obtain rfl := Option.some.inj hinfo
      obtain ⟨report, -, -, hport⟩ := hmig.ibcPortID
      refine ⟨?_, hmig.ibc2PortID⟩
      rw [hport]
      split
      · exact .inr rfl
      · exact (hold _ rfl).ibcPortID
  | settings hset =>
      obtain rfl := Option.some.inj hinfo
      have hports := hold _ rfl
      exact ⟨hset.ibcPortID ▸ hports.ibcPortID, hset.ibc2PortID ▸ hports.ibc2PortID⟩

/-- A contract stays, and so does its port once it is set. -/
theorem ContractChange.port_kept {o o' : Option ContractInfo} (h : ContractChange k s a o o')
    (ho : o = some old) :
    ∃ info, o' = some info ∧ (old.ibcPortID ≠ "" → info.ibcPortID = old.ibcPortID) := by
  cases h with
  | same => exact ⟨old, ho, fun _ => rfl⟩
  | instantiated _ _ _ => cases ho
  | migrated _ hmig =>
      obtain rfl := Option.some.inj ho
      obtain ⟨report, -, -, hport⟩ := hmig.ibcPortID
      exact ⟨_, rfl, fun hset => by rw [hport, if_neg fun h => hset h.2]⟩
  | settings hset' =>
      obtain rfl := Option.some.inj ho
      exact ⟨_, rfl, fun _ => hset'.ibcPortID⟩

theorem Changes.port_kept {sim : Bool} {d d' : Durable} (h : Changes k sim d d')
    (hold : d.store.getContractInfo a = some old) :
    ∃ info, d'.store.getContractInfo a = some info ∧
      (old.ibcPortID ≠ "" → info.ibcPortID = old.ibcPortID) := by
  induction h with
  | refl => exact ⟨old, hold, fun _ => rfl⟩
  | tail _ hchange ih =>
      obtain ⟨info, hinfo, hport⟩ := ih
      obtain ⟨info', hinfo', hport'⟩ := (hchange.contract a).port_kept hinfo
      refine ⟨info', hinfo', fun hset => ?_⟩
      rw [hport' (hport hset ▸ hset), hport hset]

/-- The code of the contract in the store after the change. -/
theorem CodesKept.ibc_iff (hkept : CodesKept s s') {codeInfo : CodeInfo} {report : AnalysisReport}
    (hcode : s.getCodeInfo info.codeID = some codeInfo)
    (hanalyze : k.wasmVM.analyze codeInfo.codeHash = .ok report)
    (hiff : info.ibcPortID ≠ "" ↔ report.hasIBCEntryPoints = true) :
    ∃ codeInfo report, s'.getCodeInfo info.codeID = some codeInfo ∧
      k.wasmVM.analyze codeInfo.codeHash = .ok report ∧
      (info.ibcPortID ≠ "" ↔ report.hasIBCEntryPoints = true) := by
  obtain ⟨codeInfo', hcode', hhash⟩ := hkept _ _ hcode
  exact ⟨codeInfo', report, hcode', by rw [hhash, hanalyze], hiff⟩

theorem PortsAgree.of_change {o o' : Option ContractInfo} (h : ContractChange k s a o o')
    (hkept : CodesKept s s') (hold : ∀ info, o = some info → PortsAgree k s a info)
    (info : ContractInfo) (hinfo : o' = some info) : PortsAgree k s' a info := by
  refine ⟨PortsWellFormed.of_change h (fun i hi => (hold i hi).toPortsWellFormed) info hinfo, ?_⟩
  cases h with
  | same =>
      obtain ⟨codeInfo, report, hcode, hanalyze, hiff⟩ := (hold info hinfo).ibc_iff
      exact hkept.ibc_iff hcode hanalyze hiff
  | instantiated hcode _ hnew =>
      obtain rfl := Option.some.inj hinfo
      obtain ⟨report, hanalyze, hport⟩ := hnew.ibcPortID
      refine hkept.ibc_iff (hnew.codeID ▸ hcode) hanalyze ?_
      rw [hport]
      split
      · rename_i hibc
        exact iff_of_true (portIDForContract_ne_empty _ _) hibc
      · rename_i hibc
        exact iff_of_false (fun hne => hne rfl) hibc
  | migrated hcode hmig =>
      obtain rfl := Option.some.inj hinfo
      obtain ⟨report, hanalyze, hcallbacks, hport⟩ := hmig.ibcPortID
      refine hkept.ibc_iff (hmig.codeID ▸ hcode) hanalyze ?_
      -- a port is only kept if the new code has the entry points
      rw [hport]
      split
      · rename_i hnew
        exact iff_of_true (portIDForContract_ne_empty _ _) hnew.1
      · rename_i hnew
        constructor
        · exact fun hset => hcallbacks.resolve_right hset
        · exact fun hibc hempty => hnew ⟨hibc, hempty⟩
  | settings hset =>
      obtain rfl := Option.some.inj hinfo
      obtain ⟨codeInfo, report, hcode, hanalyze, hiff⟩ := (hold _ rfl).ibc_iff
      rw [← hset.codeID] at hcode
      rw [← hset.ibcPortID] at hiff
      exact hkept.ibc_iff hcode hanalyze hiff

end Step

/-! ## Runs -/

/-- A run of instantiations and migrations.  The responses of the contracts are handled by such runs
too, and what is between the calls may be anything that replaces no code. -/
inductive PortRun (k : Keeper ε C) :
    World (Multistore ε) Shared → World (Multistore ε) Shared → Prop
  | refl (w) : PortRun k w w
  | trans {w w₁ w₂} : PortRun k w w₁ → PortRun k w₁ w₂ → PortRun k w w₂
  | instantiate {handler w w' ctx codeID creator admin initMsg label deposit generator policy out} :
      (∀ r w₁ rsp w₂, handler r w₁ = (.ok rsp, w₂) → PortRun k w₁ w₂) →
      (k.instantiate ctx codeID creator admin initMsg label deposit generator policy).run handler w
        = (.ok out, w') → PortRun k w w'
  | migrate {handler w w' ctx contract caller codeID msg policy out} :
      (∀ r w₁ rsp w₂, handler r w₁ = (.ok rsp, w₂) → PortRun k w₁ w₂) →
      (k.migrate ctx contract caller codeID msg policy).run handler w = (.ok out, w') →
        PortRun k w w'
  | other {w w' sim} : Change k sim w.durable w'.durable → CodesKept w.ms.wasm w'.ms.wasm →
      PortRun k w w'

theorem newInstance_codesKept {ctx : SdkContext} {codeID : UInt64}
    {creator admin : Option AccAddress} {initMsg : Bytes} {label : String} {deposit : Coins.CoinSet}
    {g : AddressGenerator} {policy : AuthorizationPolicy} {w w' : World (Multistore ε) Shared}
    {out : AccAddress × ContractInfo × ContractResponse C}
    (h : k.newInstance ctx codeID creator admin initMsg label deposit g policy w = (.ok out, w')) :
    CodesKept w.ms.wasm w'.ms.wasm := by
  obtain ⟨a, info, res⟩ := out
  obtain ⟨addr, codeInfo, s₁, -, -, -, -, haddr, -, hregistry, -, -⟩ := newInstance_ok h
  intro id code hcode
  refine ⟨code, (congrArg (·.getCodeInfo id) hregistry).trans ?_, rfl⟩
  cases haddr with
  | classic => exact hcode
  | predictable _ => exact hcode

theorem migrateContract_codesKept {ctx : SdkContext} {a caller : AccAddress} {newCodeID : UInt64}
    {msg : Bytes} {policy : AuthorizationPolicy} {w w' : World (Multistore ε) Shared}
    {out : ContractInfo × Option (ContractResponse C)}
    (h : k.migrateContract ctx a caller newCodeID msg policy w = (.ok out, w')) :
    CodesKept w.ms.wasm w'.ms.wasm := by
  obtain ⟨info, res⟩ := out
  obtain ⟨old, -, codeInfo, last, position, -, -, -, -, -, -, -, -, hregistry, -, -⟩ :=
    migrateContract_ok h
  intro id code hcode
  exact ⟨code, (congrArg (·.getCodeInfo id) hregistry).trans hcode, rfl⟩

/-- **What every step of a run preserves, a run preserves.** -/
theorem PortRun.induct {P : WasmStore → Prop} {w w' : World (Multistore ε) Shared}
    (h : PortRun k w w')
    (hstep : ∀ sim {d d' : Durable}, Change k sim d d' → CodesKept d.store d'.store → P d.store →
      P d'.store) (hw : P w.ms.wasm) : P w'.ms.wasm := by
  induction h with
  | refl w => exact hw
  | trans _ _ ih₁ ih₂ => exact ih₂ (ih₁ hw)
  | instantiate _ hcall ih =>
      obtain ⟨out, w₁, hnew, r, w₂, rsp, hstore, hhandled⟩ := instantiate_run_ok hcall
      have hw₁ := hstep true (newInstance_change hnew) (newInstance_codesKept hnew) hw
      exact ih r w₂ rsp _ hhandled (hstore ▸ hw₁)
  | migrate _ hcall ih =>
      obtain ⟨out, w₁, hmig, hrest⟩ := migrate_run_ok hcall
      have hw₁ := hstep true (migrateContract_change hmig) (migrateContract_codesKept hmig) hw
      rcases hrest with rfl | ⟨r, w₂, rsp, hstore, hhandled⟩
      · exact hw₁
      · exact ih r w₂ rsp _ hhandled (hstore ▸ hw₁)
  | other hchange hkept => exact hstep _ hchange hkept hw

/-- The ports of all contracts agree with their codes. -/
theorem PortRun.portsAgree {w w' : World (Multistore ε) Shared} (h : PortRun k w w')
    (hw : ∀ a info, w.ms.wasm.getContractInfo a = some info → PortsAgree k w.ms.wasm a info) :
    ∀ a info, w'.ms.wasm.getContractInfo a = some info → PortsAgree k w'.ms.wasm a info := by
  refine h.induct (P := fun s => ∀ a info, s.getContractInfo a = some info → PortsAgree k s a info)
    (fun _ _ _ hchange hkept hd a => ?_) hw
  exact PortsAgree.of_change (hchange.contract a) hkept (hd a)

/-- A port that is set stays. -/
theorem PortRun.port_kept {w w' : World (Multistore ε) Shared} (h : PortRun k w w')
    {a : AccAddress} {info : ContractInfo} (hinfo : w.ms.wasm.getContractInfo a = some info)
    (hset : info.ibcPortID ≠ "") :
    ∃ info', w'.ms.wasm.getContractInfo a = some info' ∧ info'.ibcPortID = info.ibcPortID := by
  refine h.induct (P := fun s => ∃ info', s.getContractInfo a = some info' ∧
    info'.ibcPortID = info.ibcPortID) (fun _ _ _ hchange _ hd => ?_) ⟨info, hinfo, rfl⟩
  obtain ⟨old, hold, hport⟩ := hd
  obtain ⟨info', hinfo', hport'⟩ := (hchange.contract a).port_kept hold
  exact ⟨info', hinfo', (hport' (hport ▸ hset)).trans hport⟩

/-- **The life cycle of the ports.**  In every run from a store without contracts, the IBC port of a
contract is set exactly if its current code has IBC entry points, is then the port of its address,
and never changes again; the port of IBC v2 is always that of its address. -/
theorem port_life_cycle (k : Keeper ε C) (w₀ w w' : World (Multistore ε) Shared)
    (hempty : ∀ a, w₀.ms.wasm.getContractInfo a = none) (h : PortRun k w₀ w) (h' : PortRun k w w') :
    ∀ a info, w.ms.wasm.getContractInfo a = some info →
      (∃ codeInfo report, w.ms.wasm.getCodeInfo info.codeID = some codeInfo ∧
        k.wasmVM.analyze codeInfo.codeHash = .ok report ∧
        (info.ibcPortID ≠ "" ↔ report.hasIBCEntryPoints = true)) ∧
      (info.ibcPortID ≠ "" → info.ibcPortID = portIDForContract k.codec a ∧
        ∃ info', w'.ms.wasm.getContractInfo a = some info' ∧ info'.ibcPortID = info.ibcPortID) ∧
      info.ibc2PortID = portIDForContractV2 k.codec k.hrp a := by
  intro a info hinfo
  have hports : PortsAgree k w.ms.wasm a info := by
    refine h.portsAgree (fun b info' hinfo' => ?_) a info hinfo
    rw [hempty b] at hinfo'
    cases hinfo'
  refine ⟨hports.ibc_iff, fun hset => ⟨hports.ibcPortID.resolve_left hset, ?_⟩, hports.ibc2PortID⟩
  exact h'.port_kept hinfo hset

/-! ### A contract with IBC entry points -/

/-- A chain on which every code has IBC entry points. -/
def ibcKeeper : Keeper Unit Unit :=
  { plainKeeper Unit with
    wasmVM := { plainVM Unit with analyze := fun _ => .ok ⟨true, "", none⟩ } }

/-- Who instantiates. -/
def ibcCreator : AccAddress := .twenty 1

/-- The context of a block. -/
def ibcCtx : SdkContext := ⟨10, 1000000000, some 0, false, none, none, none, none⟩

/-- A store with the code 1. -/
def ibcStart : World (Multistore Unit) Shared :=
  plainWorld (WasmStore.empty.storeCodeInfo 1 ⟨[1], markedText ibcCreator, allowEverybody⟩)
    (.infinite 0)

/-- An instantiation of the code 1. -/
def ibcCall : KeeperM Unit (AccAddress × Option Bytes) :=
  (ibcKeeper.instantiate ibcCtx 1 (some ibcCreator) none [] "label" [] .classic
    .default).run fun _ => pure none

/-- The contract. -/
def ibcContract : AccAddress := ibcKeeper.buildContractAddressClassic 1 1

theorem ibcCall_ok : (ibcCall ibcStart).1.toOption = some (ibcContract, none) := by
  decide +kernel

theorem port_life_cycle_instantiated :
    ∃ info, (ibcCall ibcStart).2.ms.wasm.getContractInfo ibcContract = some info ∧
      info.ibcPortID = portIDForContract ibcKeeper.codec ibcContract := by
  have hrun : PortRun ibcKeeper ibcStart (ibcCall ibcStart).2 :=
    .instantiate (fun r w₁ rsp w₂ h => (GoM.pure_ok_iff.mp h).2 ▸ .refl w₁)
      (GoM.ok_of_toOption ibcCall_ok)
  have hstored : ((ibcCall ibcStart).2.ms.wasm.getContractInfo ibcContract).isSome = true := by
    decide +kernel
  obtain ⟨info, hinfo⟩ := Option.isSome_iff_exists.mp hstored
  have hempty : ∀ a, ibcStart.ms.wasm.getContractInfo a = none := fun a => rfl
  obtain ⟨⟨codeInfo, report, -, hreport, hiff⟩, hport, -⟩ :=
    port_life_cycle ibcKeeper ibcStart _ _ hempty hrun (.refl _) ibcContract info hinfo
  cases hreport
  exact ⟨info, hinfo, (hport (hiff.mpr rfl)).1⟩

end Wasmd
