import Wasmd.Keeper.CodeSequence
import Wasmd.Keeper.EntryCalls
import Wasmd.Keeper.Ports

/-!
# The port of the messages of a contract

`handleContractResponse` gets the port the messages of a contract are sent from as a text, and every
entry point passes one.

* `PortsHold` — the ports of all contracts agree with their codes; `Changes.portsHold` — they do so
  along any number of changes.
* `portsConduct` — this, and the port of a response, for every response in the tree below an entry
  point (`EntryCall.ports`, `chain_ports`).
* `SentFromPort` — a message is sent from the IBC port of the contract, and an IBC message is
  unsupported exactly if the contract has no IBC entry points.
* `port_agreement_iff` — when this is so.
-/

namespace Wasmd

open ByteStore Effects Gas MessageDispatcher

variable {ε C : Type} {k : Keeper ε C} {m : Messenger ε C}

/-! ## The ports of all contracts -/

/-- The current code of the contract has IBC entry points. -/
def HasIBCEntryPoints (k : Keeper ε C) (s : WasmStore) (a : AccAddress) : Prop :=
  ∃ info codeInfo report, s.getContractInfo a = some info ∧
    s.getCodeInfo info.codeID = some codeInfo ∧ k.wasmVM.analyze codeInfo.codeHash = .ok report ∧
    report.hasIBCEntryPoints = true

/-- The ports of all contracts agree with their codes. -/
def AllPortsAgree (k : Keeper ε C) (s : WasmStore) : Prop :=
  ∀ a info, s.getContractInfo a = some info → PortsAgree k s a info

theorem hasIBCEntryPoints_iff {a : AccAddress} {info : ContractInfo} {s : WasmStore}
    (hinfo : s.getContractInfo a = some info) (hports : PortsAgree k s a info) :
    HasIBCEntryPoints k s a ↔ info.ibcPortID ≠ "" := by
  obtain ⟨codeInfo, report, hcode, hanalyze, hiff⟩ := hports.ibc_iff
  rw [hiff]
  constructor
  · rintro ⟨info', codeInfo', report', hinfo', hcode', hanalyze', hibc⟩
    rw [hinfo] at hinfo'
    cases hinfo'
    rw [hcode] at hcode'
    cases hcode'
    rw [hanalyze] at hanalyze'
    cases hanalyze'
    exact hibc
  · exact fun hibc => ⟨info, codeInfo, report, hinfo, hcode, hanalyze, hibc⟩

/-- The ports agree with the codes, and the codes lie below their sequence, unless the sequence is
spent. -/
def PortsHold (k : Keeper ε C) (s : WasmStore) : Prop :=
  CodeSequenceSpent s ∨ CodesBelow s ∧ AllPortsAgree k s

/-- Only the codes, the contracts and the sequences count. -/
theorem PortsHold.of_eq {s s' : WasmStore} (hcodes : s'.codes = s.codes)
    (hcontracts : s'.contracts = s.contracts) (hsequences : s'.sequences = s.sequences)
    (h : PortsHold k s) : PortsHold k s' := by
  have hcode : ∀ id, s'.getCodeInfo id = s.getCodeInfo id := fun id => by
    rw [WasmStore.getCodeInfo, hcodes, WasmStore.getCodeInfo]
  have hnext : s'.nextCodeID = s.nextCodeID := by
    rw [WasmStore.nextCodeID, WasmStore.peekAutoIncrementID, hsequences]
    rfl
  rcases h with hspent | ⟨hbelow, hports⟩
  · exact .inl (by rwa [CodeSequenceSpent, hcode, hnext])
  · refine .inr ⟨fun id hid => ?_, fun a info hinfo => ?_⟩
    · rw [hnext]
      exact hbelow id (hcode id ▸ hid)
    · rw [WasmStore.getContractInfo, hcontracts] at hinfo
      obtain ⟨hformed, codeInfo, report, hcodeInfo, hrest⟩ := hports a info hinfo
      exact ⟨hformed, codeInfo, report, (hcode _).trans hcodeInfo, hrest⟩

theorem Change.portsHold {sim : Bool} {d d' : Durable} (h : Change k sim d d')
    (hd : PortsHold k d.store) : PortsHold k d'.store := by
  have hcodes := h.core.codes
  by_cases hspent : CodeSequenceSpent d.store
  · exact .inl (hcodes.spent hspent)
  · obtain ⟨hbelow, hports⟩ := hd.resolve_left hspent
    have hgrown := hcodes.grown h.core.raw_eq hbelow hspent
    have hkept : CodesKept d.store d'.store := fun id info hinfo =>
      (hgrown.kept id info hinfo).imp fun _ hsame => ⟨hsame.1, hsame.2.1⟩
    exact .inr ⟨hgrown.below, fun a => PortsAgree.of_change (h.contract a) hkept (hports a)⟩

theorem Changes.portsHold {sim : Bool} {d d' : Durable} (h : Changes k sim d d')
    (hd : PortsHold k d.store) : PortsHold k d'.store := by
  induction h with
  | refl => exact hd
  | tail _ hchange ih => exact hchange.portsHold ih

/-! ## The port of a response -/

/-- The ports still hold. -/
def KeepsPorts (k : Keeper ε C) (s s' : WasmStore) : Prop := PortsHold k s → PortsHold k s'

instance keepsPorts_tracks (k : Keeper ε C) : Tracks (KeepsPorts k) where
  registry h := .of_eq (congrArg (·.codes) h) (congrArg (·.contracts) h)
    (congrArg (·.sequences) h)
  asyncAcks _ _ := .of_eq rfl rfl rfl
  trans h₁ h₂ hs := h₂ (h₁ hs)

/-- Calls keep the ports, and a response comes with the port that its entry point takes. -/
def portsConduct (k : Keeper ε C) : Conduct (Multistore ε) Shared SdkContext C Guarded :=
  storeConduct (KeepsPorts k) (fun _ _ => True) fun r w =>
    PortsHold k w.ms.wasm ∧ ∃ ctx, Answered k ctx r w

instance portsConduct_admits (k : Keeper ε C) : (portsConduct k).Admits k true :=
  storeConduct_admits fun h => h.portsHold

theorem chain_ports (k : Keeper ε C) (m : Messenger ε C) :
    (k.chain m).Sound (portsConduct k) :=
  chain_served (D := portsConduct k)
    (fun _ _ _ _ _ _ _ _ _ h => (portsConduct_admits k).edits (h.edits fun _ => rfl))
    (fun _ _ _ _ _ _ _ _ h => dispatchIBC_tracks h) (fun _ _ _ _ _ _ _ => trivial)
    (fun _ _ hr _ _ _ _ hafter ha => ⟨hafter hr.1, _, ha⟩)
    fun _ _ hr _ _ hafter ha => ⟨hafter hr.1, _, ha⟩

/-- **The response of an entry point** comes with the port that the entry point takes, and the ports
hold then. -/
theorem EntryCall.ports {call : EntryCall} {n : Nat} {w w' : World (Multistore ε) Shared}
    {r : Response SdkContext C} (hw : PortsHold k w.ms.wasm)
    (h : (call.script k).Reaches ((k.chain m).handlerAt n) w (.respond r) w') :
    (portsConduct k).response r w' := by
  have hD := (portsConduct_admits k).toLawful
  have hs : (call.script k).Sound { portsConduct k with
      response := fun r w' => Answered k call.callContext r w' } w :=
    EntryCall.served (fun w' hasks => ?_) (fun _ _ => trivial) fun _ _ ha => ha
  · exact h.sound hD (hD.handlerAt (chain_ports k m) n) (hs.imp hD (fun _ _ _ _ => trivial)
      fun r w' hafter ha => ⟨hafter hw, _, ha⟩)
  cases hasks with
  | newInstance => exact (portsConduct_admits k).edits (newInstance_edits _ _ _ _ _ _ _ _ _)
  | migrateContract => exact (portsConduct_admits k).edits (migrateContract_edits _ _ _ _ _ _)
  | receive | receive2 => exact (portsConduct_admits k).edits (runReceive_edits _ _ _)
  | storeAsyncAckPacket ctx contract msg =>
      intro _ _ hstore
      obtain rfl := writeStore_ok_iff.mp hstore
      exact (keepsPorts_tracks k).asyncAcks _ _

/-! ## Messages -/

/-- The response comes with the IBC port that is stored for the contract. -/
def PortStored (r : Response SdkContext C) (w : World (Multistore ε) Shared) : Prop :=
  ∃ info, w.ms.wasm.getContractInfo r.contract = some info ∧ r.ibcPort = info.ibcPortID

/-- The error of `IBCRawPacketHandler` for a contract without a port. -/
def ibcNotSupported : GoError := errUnsupportedForContract.wrap "ibc not supported"

section Message

variable {n : Nat} {w : World (Multistore ε) Shared} {r : Response SdkContext C} {msg : SubMsg C}

/-- An IBC message is unsupported exactly if the port is empty: other errors have other texts. -/
theorem dispatchIBC_unsupported_iff {ctx : SdkContext} {contract : AccAddress} {port : String}
    {ibcMsg : IBCRawMsg} :
    (Keeper.dispatchIBC m ctx contract port ibcMsg w).1 = .error (.error ibcNotSupported) ↔
      port = "" := by
  have hfirst : ∀ {rest : Unit → KeeperM ε DispatchResult}, port = "" →
      ((GoM.ensure (port ≠ "") ibcNotSupported >>= rest) w).1 = .error (.error ibcNotSupported) :=
    fun hempty => GoM.bind_error_iff.mpr (.inl (GoM.ensure_error_iff.mpr ⟨not_not.mpr hempty, rfl⟩))
  cases ibcMsg with
  | sendPacket channel data timeoutBlock timeoutTimestamp =>
      refine ⟨fun h => ?_, hfirst⟩
      rcases GoM.bind_error_iff.mp h with h₁ | ⟨_, w₁, -, h₁⟩
      · exact not_not.mp (GoM.ensure_error_iff.mp h₁).1
      rcases GoM.bind_error_iff.mp h₁ with h₂ | ⟨_, w₂, -, h₂⟩
      · exact absurd (GoM.ensure_error_iff.mp h₂).2 (by decide)
      rcases GoM.bind_error_iff.mp h₂ with h₃ | ⟨_, w₃, -, h₃⟩
      · obtain ⟨e, -, he⟩ := GoM.mapError_error_iff.mp h₃
        simp [ibcNotSupported, Registered.wrap] at he
      · cases h₃
  | writeAcknowledgement channel sequence ack =>
      refine ⟨fun h => ?_, hfirst⟩
      rcases GoM.bind_error_iff.mp h with h₁ | ⟨_, w₁, -, h₁⟩
      · exact not_not.mp (GoM.ensure_error_iff.mp h₁).1
      rcases GoM.bind_error_iff.mp h₁ with h₂ | ⟨_, w₂, -, h₂⟩
      · exact absurd (GoM.ensure_error_iff.mp h₂).2 (by decide)
      rcases GoM.bind_error_iff.mp h₂ with h₃ | ⟨_, w₃, -, h₃⟩
      · cases h₃
      rcases GoM.bind_error_iff.mp h₃ with h₄ | ⟨_, w₄, -, h₄⟩
      · exact absurd (GoM.ofOption_error_iff.mp h₄).2 (by decide)
      rcases GoM.bind_error_iff.mp h₄ with h₅ | ⟨_, w₅, -, h₅⟩
      · obtain ⟨e, -, he⟩ := GoM.mapError_error_iff.mp h₅
        simp [ibcNotSupported, Registered.wrap] at he
      · cases h₅

/-- The handlers before and after `IBCRawPacketHandler` do not change its error. -/
theorem noHandlerFound_eq_iff {e : GoError} :
    noHandlerFound e = ibcNotSupported ↔ e = ibcNotSupported := by
  unfold noHandlerFound
  split
  · rename_i hunknown
    constructor
    · intro h
      exact absurd h (by decide)
    · rintro rfl
      exact absurd hunknown (by decide)
  · rfl

/-- The messenger on an IBC message. -/
theorem dispatchMsg_unsupported_iff {ibcMsg : IBCRawMsg}
    (hvariant : m.variant msg.msg = .ibc ibcMsg) :
    (((k.chain m).dispatcherAt n r.ctx).dispatchMsg r.contract r.ibcPort msg.msg w).1
        = .error (.error ibcNotSupported) ↔ r.ibcPort = "" := by
  have hrun : ((k.chain m).dispatcherAt n r.ctx).dispatchMsg r.contract r.ibcPort msg.msg
      = GoM.mapError noHandlerFound
          (Keeper.dispatchIBC m r.ctx r.contract r.ibcPort ibcMsg) >>= pure := by
    show (Keeper.dispatchCosmosMsg k m r.ctx r.contract r.ibcPort msg.msg).run _ = _
    unfold Keeper.dispatchCosmosMsg
    rw [hvariant]
    rfl
  rw [hrun, GoM.bind_error_iff]
  constructor
  · rintro (h | ⟨_, _, -, h⟩)
    · obtain ⟨e, he, heq⟩ := GoM.mapError_error_iff.mp h
      rw [noHandlerFound_eq_iff.mp heq] at he
      exact dispatchIBC_unsupported_iff.mp he
    · cases h
  · intro hempty
    exact .inl (GoM.mapError_error_iff.mpr
      ⟨ibcNotSupported, dispatchIBC_unsupported_iff.mpr hempty, noHandlerFound_eq_iff.mpr rfl⟩)

/-- The message of a response is sent from the IBC port that is stored for the contract, and an IBC
message is unsupported exactly if the contract has no IBC entry points. -/
structure SentFromPort (k : Keeper ε C) (m : Messenger ε C) (n : Nat) (r : Response SdkContext C)
    (msg : SubMsg C) (w : World (Multistore ε) Shared) : Prop where
  port : PortStored r w
  unsupported_iff : ∀ ibcMsg, m.variant msg.msg = .ibc ibcMsg →
    ((((k.chain m).dispatcherAt n r.ctx).dispatchMsg r.contract r.ibcPort msg.msg
        (subWorld msg w)).1 = .error (.error ibcNotSupported) ↔
      ¬ HasIBCEntryPoints k w.ms.wasm r.contract)

theorem sentFromPort_iff (hports : AllPortsAgree k w.ms.wasm) :
    SentFromPort k m n r msg w ↔ PortStored r w := by
  refine ⟨fun h => h.port, fun hport => ⟨hport, fun ibcMsg hvariant => ?_⟩⟩
  obtain ⟨info, hinfo, heq⟩ := hport
  rw [dispatchMsg_unsupported_iff hvariant, hasIBCEntryPoints_iff hinfo (hports _ _ hinfo), heq,
    not_not]

variable {w' : World (Multistore ε) Shared}

/-- Later on, the port of a response is the stored one unless the contract has got IBC entry points
meanwhile. -/
theorem portStored_later_iff (hports : AllPortsAgree k w.ms.wasm)
    (hports' : AllPortsAgree k w'.ms.wasm) (hchanges : Changes k true w.durable w'.durable)
    (hport : PortStored r w) :
    PortStored r w' ↔
      (HasIBCEntryPoints k w'.ms.wasm r.contract → HasIBCEntryPoints k w.ms.wasm r.contract) := by
  obtain ⟨old, hold, heq⟩ := hport
  obtain ⟨info, hinfo, hkept⟩ := hchanges.port_kept hold
  replace hinfo : w'.ms.wasm.getContractInfo r.contract = some info := hinfo
  rw [hasIBCEntryPoints_iff hinfo (hports' _ _ hinfo), hasIBCEntryPoints_iff hold (hports _ _ hold)]
  constructor
  · rintro ⟨info', hinfo', heq'⟩ hset
    rw [hinfo] at hinfo'
    cases hinfo'
    rw [← heq, heq']
    exact hset
  · intro h
    refine ⟨info, hinfo, ?_⟩
    by_cases hset : old.ibcPortID = ""
    · rw [heq, hset]
      exact (not_not.mp fun hne => h hne hset).symm
    · rw [hkept hset, heq]

/-- The port of IBC v2 is never the stored port of IBC v1. -/
theorem not_portStored_of_isIBC2 (hports : AllPortsAgree k w.ms.wasm)
    (hports' : AllPortsAgree k w'.ms.wasm) {ctx : SdkContext} (ha : Answered k ctx r w)
    (hentry : r.entry.isIBC2 = true) : ¬ PortStored r w' := by
  obtain ⟨old, hold, hport⟩ := ha.port
  have hv2 : r.ibcPort = portIDForContractV2 k.codec k.hrp r.contract := by
    rw [hport, EntryPoint.port, if_pos hentry]
    exact (hports _ _ hold).ibc2PortID
  rintro ⟨info, hinfo, heq⟩
  rcases (hports' _ _ hinfo).ibcPortID with hempty | hfull
  · rw [hv2, hempty] at heq
    exact absurd heq (by simp [portIDForContractV2, portIDPrefixV2, String.append_eq_empty_iff])
  · rw [hv2, hfull] at heq
    exact portIDPrefix_ne _ _ heq.symm

end Message

/-- **When the messages of a contract are sent from its port.**  The ports of all contracts agree
with their codes and no code lies above the sequence when an entry point is called.  In the tree
below its response, the loop gets to the message `msg` of the response `r`, with code ids left.  The
message is sent from the port stored for the contract exactly if `r` does not come from a callback
of IBC v2, and the contract has not got IBC entry points since it answered. -/
theorem port_agreement_iff (k : Keeper ε C) (m : Messenger ε C) (n n' : Nat) (call : EntryCall)
    (w w₀ w₁ w₂ : World (Multistore ε) Shared) (r₀ r : Response SdkContext C) (msg : SubMsg C)
    (hports : AllPortsAgree k w.ms.wasm) (hbelow : CodesBelow w.ms.wasm)
    (hspent : ¬ CodeSequenceSpent w₂.ms.wasm)
    (hroot : (call.script k).Reaches ((k.chain m).handlerAt n) w (.respond r₀) w₀)
    (h : Handled (k.chain m) n r₀ w₀ (n' + 1) r w₁)
    (hloop : LoopAt ((k.chain m).dispatcherAt n' r.ctx) r.contract r.ibcPort none r.msgs w₁ msg
      w₂) :
    SentFromPort k m n' r msg w₂ ↔
      r.entry.isIBC2 = false ∧
        (HasIBCEntryPoints k w₂.ms.wasm r.contract →
          HasIBCEntryPoints k w₁.ms.wasm r.contract) := by
  have hchanges := loopAt_changes hloop
  have hspent₁ : ¬ CodeSequenceSpent w₁.ms.wasm := fun h => hspent (hchanges.codes_spent h)
  -- the response, and the ports in the worlds it comes in and its message is sent in
  obtain ⟨hhold, ctx, ha⟩ := h.sound (portsConduct_admits k).toLawful (chain_ports k m)
    (EntryCall.ports (.inr ⟨hbelow, hports⟩) hroot)
  have hports₁ := (hhold.resolve_left hspent₁).2
  have hports₂ := ((hchanges.portsHold hhold).resolve_left hspent).2
  rw [sentFromPort_iff hports₂]
  cases hentry : r.entry.isIBC2 with
  | true => exact iff_of_false (not_portStored_of_isIBC2 hports₁ hports₂ ha hentry) nofun
  | false =>
      have hport : PortStored r w₁ := by
        obtain ⟨info, hinfo, heq⟩ := ha.port
        rw [EntryPoint.port, if_neg (by rw [hentry]; exact Bool.false_ne_true)] at heq
        exact ⟨info, hinfo, heq⟩
      rw [portStored_later_iff hports₁ hports₂ hchanges hport]
      exact ⟨fun hlater => ⟨rfl, hlater⟩, fun hboth => hboth.2⟩

/-! ### A contract that sends a packet

It has IBC entry points, and answers every call with one `IBC.SendPacket`. -/

/-- A chain with such contracts. -/
def sendKeeper : Keeper Unit Unit :=
  { ibcKeeper with
    wasmVM := { ibcKeeper.wasmVM with
      call := fun _ _ _ _ => .ret (some (.ok ⟨[⟨0, [], (), none, .never⟩], [], [], none⟩)) } }

/-- The message sends a packet on a channel. -/
def sendMessenger : Messenger Unit Unit where
  lib := plainLib
  isWasm _ := false
  variant _ := .ibc (.sendPacket "channel-1" [] none 0)
  encodeResponse _ _ := (none, [])
  sendPacket _ _ _ _ _ _ := pure 0
  writeAcknowledgement _ _ _ := pure ()
  ibcSendResponse _ := ([], ⟨"", []⟩)
  ibcWriteAcknowledgementResponse := ([], ⟨"", []⟩)

/-- The record of the contract. -/
def sendInfo : ContractInfo :=
  ⟨1, markedText ibcCreator, "", "label", ⟨10, 0⟩, portIDForContract sendKeeper.codec ibcContract,
    portIDForContractV2 sendKeeper.codec sendKeeper.hrp ibcContract, none⟩

/-- The store with the code 1. -/
def sendCode : WasmStore :=
  (WasmStore.empty.autoIncrementID keySequenceCodeID).2.storeCodeInfo 1
    ⟨[1], markedText ibcCreator, allowEverybody⟩

/-- The world with the contract. -/
def sendWorld : World (Multistore Unit) Shared :=
  plainWorld (sendCode.storeContractInfo ibcContract sendInfo) (.infinite 0)

/-- Its response. -/
def sendResponse : ContractResponse Unit := ⟨[⟨0, [], (), none, .never⟩], [], [], none⟩

/-- An acknowledgement arrives, of IBC v1 or of IBC v2. -/
def sendCall (v2 : Bool) : EntryCall :=
  if v2 then .ibc2PacketAck ibcCtx ibcContract ⟨[], 0⟩ else .ibcPacketAck ibcCtx ibcContract ⟨[], 0⟩

/-- What the contract is called with. -/
def sendInput (v2 : Bool) : VMInput := if v2 then .ibc2PacketAck ⟨[], 0⟩ else .ibcPacketAck ⟨[], 0⟩

/-- The world after the call of the contract, and the one after the events of its response. -/
def sendRan (v2 : Bool) : World (Multistore Unit) Shared :=
  (sendKeeper.runContract ibcCtx ibcContract (sendInput v2) errExecuteFailed sendWorld).2

def sendAnswered (v2 : Bool) : World (Multistore Unit) Shared :=
  (sendKeeper.emitResponse ibcCtx ibcContract [] [] (sendRan v2)).2

theorem send_ran (v2 : Bool) :
    (sendKeeper.runContract ibcCtx ibcContract (sendInput v2) errExecuteFailed
      sendWorld).1.toOption = some (sendInfo, sendResponse) := by
  revert v2
  decide +kernel

theorem send_emitted (v2 : Bool) :
    (sendKeeper.emitResponse ibcCtx ibcContract [] [] (sendRan v2)).1.toOption
      = some ibcCtx.deeper := by
  revert v2
  decide +kernel

/-- The response of the contract, with the port it is handed on with. -/
def sendRoot (v2 : Bool) : Response SdkContext Unit :=
  ⟨ibcCtx.deeper, ibcContract, (sendInput v2).entryPoint, (sendInput v2).entryPoint.port sendInfo,
    sendResponse.messages, none⟩

theorem send_reaches (v2 : Bool) :
    ((sendCall v2).script sendKeeper).Reaches ((sendKeeper.chain sendMessenger).handlerAt 1)
      sendWorld
      (.respond (sendRoot v2)) (sendAnswered v2) := by
  have hran := GoM.ok_of_toOption (send_ran v2)
  have hemitted := GoM.mapError_ok_iff (f := id).mpr (GoM.ok_of_toOption (send_emitted v2))
  cases v2 with
  | false => exact .step hran (.step hemitted .respond)
  | true => exact .step hran (.step hemitted .respond)

theorem send_confined (v2 : Bool) : Confined (· = ibcContract) sendWorld (sendAnswered v2) := by
  have hran := (runContract_stays sendKeeper _ _ _ _).confined (GoM.ok_of_toOption (send_ran v2))
  have hemitted := (emitResponse_stays (A := (· = ibcContract)) sendKeeper _ _ _ _).confined
    (GoM.ok_of_toOption (send_emitted v2))
  exact hran.trans hemitted

theorem send_portsAgree : AllPortsAgree sendKeeper sendWorld.ms.wasm := by
  intro a info hinfo
  by_cases ha : a = ibcContract
  · subst ha
    have hself := WasmStore.getContractInfo_storeContractInfo_self sendCode ibcContract sendInfo
    obtain rfl : sendInfo = info := Option.some.inj (hself.symm.trans hinfo)
    refine ⟨⟨.inr rfl, rfl⟩, _, ⟨true, "", none⟩, WasmStore.getCodeInfo_storeCodeInfo_self _ _ _,
      rfl, iff_of_true (portIDForContract_ne_empty _ _) rfl⟩
  · have hnone := WasmStore.getContractInfo_storeContractInfo_of_ne sendCode sendInfo ha
    cases hnone.symm.trans hinfo

theorem send_codesBelow : CodesBelow sendWorld.ms.wasm := by
  intro id hid
  obtain hid | rfl := (isSome_getCodeInfo_storeCodeInfo id).mp hid
  · cases hid
  · decide +kernel

/-- Neither the call nor the response changes a record. -/
theorem send_registry (v2 : Bool) :
    (sendAnswered v2).ms.wasm.registry = sendWorld.ms.wasm.registry :=
  (send_confined v2).registry

theorem send_notSpent (v2 : Bool) : ¬ CodeSequenceSpent (sendAnswered v2).ms.wasm := by
  have hstart : ¬ CodeSequenceSpent sendWorld.ms.wasm.registry := by
    unfold CodeSequenceSpent
    decide +kernel
  rw [← send_registry v2] at hstart
  exact hstart

theorem send_hasIBCEntryPoints (v2 : Bool) :
    HasIBCEntryPoints sendKeeper (sendAnswered v2).ms.wasm ibcContract := by
  have hstart : HasIBCEntryPoints sendKeeper sendWorld.ms.wasm.registry ibcContract :=
    (hasIBCEntryPoints_iff (WasmStore.getContractInfo_storeContractInfo_self _ _ _)
      (send_portsAgree _ _ (WasmStore.getContractInfo_storeContractInfo_self _ _ _))).mpr
      (portIDForContract_ne_empty _ _)
  rw [← send_registry v2] at hstart
  exact hstart

/-- The acknowledgement of a packet of IBC v1: the message of the contract is sent from its port. -/
theorem port_agreement_ack :
    SentFromPort sendKeeper sendMessenger 0 (sendRoot false) ⟨0, [], (), none, .never⟩
      (sendAnswered false) :=
  (port_agreement_iff sendKeeper sendMessenger 1 0 (sendCall false) sendWorld _ _ _ _ _ _
    send_portsAgree send_codesBelow (send_notSpent false) (send_reaches false) .root .here).mpr
    ⟨rfl, fun _ => send_hasIBCEntryPoints false⟩

/-- **The acknowledgement of a packet of IBC v2**: the contract has a port, and its message is
handed on with another. -/
theorem port_disagrees_ibc2 :
    AllPortsAgree sendKeeper sendWorld.ms.wasm ∧ CodesBelow sendWorld.ms.wasm ∧
      ((sendCall true).script sendKeeper).Reaches ((sendKeeper.chain sendMessenger).handlerAt 1)
        sendWorld (.respond (sendRoot true)) (sendAnswered true) ∧
      LoopAt ((sendKeeper.chain sendMessenger).dispatcherAt 0 (sendRoot true).ctx) ibcContract
        (sendRoot true).ibcPort none (sendRoot true).msgs (sendAnswered true)
        ⟨0, [], (), none, .never⟩ (sendAnswered true) ∧
      HasIBCEntryPoints sendKeeper (sendAnswered true).ms.wasm ibcContract ∧
      ¬ SentFromPort sendKeeper sendMessenger 0 (sendRoot true) ⟨0, [], (), none, .never⟩
        (sendAnswered true) := by
  refine ⟨send_portsAgree, send_codesBelow, send_reaches true, .here, send_hasIBCEntryPoints true,
    fun hsent => ?_⟩
  have hinfo : (sendAnswered true).ms.wasm.getContractInfo ibcContract = some sendInfo :=
    ((send_confined true).read_eq (·.getContractInfo ibcContract)).trans
      (WasmStore.getContractInfo_storeContractInfo_self _ _ _)
  obtain ⟨info, hinfo', heq⟩ := hsent.port
  obtain rfl : sendInfo = info := Option.some.inj (hinfo.symm.trans hinfo')
  exact portIDPrefix_ne _ _ heq.symm

end Wasmd
