import Wasmd.Keeper.Addresses
import Wasmd.Keeper.IBCHandler

/-!
# Export and import

* `pending_acks_survive_iff` — an export and import keeps the packets that wait for their
  acknowledgement exactly if there are none.
-/

namespace Wasmd

open ByteStore KVStore Effects Gas

variable {ε C : Type} {k : Keeper ε C} {m : Messenger ε C} {w w' : World (Multistore ε) Shared}

/-- `ExportGenesis` of one chain and `InitGenesis` of another. -/
def Keeper.transfer (k : Keeper ε C) (s : WasmStore) (vm : VMState) : KeeperM ε Unit := do
  let data ← orPanic (k.exportGenesis s vm)
  k.initGenesis data

/-! ## Packets that wait -/

/-- No packet is there after an import. -/
theorem initGenesis_asyncAcks {data : GenesisState} (hempty : w.ms.wasm = .empty)
    (h : k.initGenesis data w = (.ok (), w')) : w'.ms.wasm.asyncAcks = ∅ := by
  obtain ⟨w₁, -, hrecords, hsequences⟩ := initGenesis_ok hempty h
  exact (congrArg (·.asyncAcks) hsequences.records).trans hrecords.asyncAcks

/-- **Packets that wait for their acknowledgement do not survive an export and import.**  Those that
can be loaded before can be loaded after it exactly if there are none. -/
theorem pending_acks_survive_iff (k : Keeper ε C) (s : WasmStore) (vm : VMState)
    (w w' : World (Multistore ε) Shared) (hempty : w.ms.wasm = .empty)
    (h : k.transfer s vm w = (.ok (), w')) :
    (∀ port channel sequence packet, s.loadAsyncAckPacket port channel sequence = some packet →
      w'.ms.wasm.loadAsyncAckPacket port channel sequence = some packet) ↔
    ∀ port channel sequence, s.loadAsyncAckPacket port channel sequence = none := by
  obtain ⟨data, w₁, hexport, himport⟩ := GoM.bind_ok_iff.mp h
  obtain ⟨-, rfl⟩ := orPanic_ok_iff.mp hexport
  have hnone : ∀ port channel sequence,
      w'.ms.wasm.loadAsyncAckPacket port channel sequence = none := by
    intro port channel sequence
    rw [WasmStore.loadAsyncAckPacket, initGenesis_asyncAcks hempty himport]
    rfl
  constructor
  · intro hsurvive port channel sequence
    rw [Option.eq_none_iff_forall_ne_some]
    intro packet hload
    have hafter := hsurvive port channel sequence packet hload
    rw [hnone] at hafter
    cases hafter
  · intro hempty port channel sequence packet hload
    rw [hempty] at hload
    cases hload

/-! ### A packet that is lost -/

/-- The state after a call. -/
def laterAfter (call : KeeperCall) (st : ChainState Unit) : ChainState Unit :=
  let out := call.run laterKeeper sendMessenger (st.world () (.infinite 0) none)
  ⟨out.2.ms, out.2.shared.vm⟩

/-- A code and a contract of it. -/
def laterChain : ChainState Unit :=
  laterAfter (.top (.entry (.instantiate ibcCtx 1 (some ibcCreator) none [] "label" [] .classic
    .default))) (laterAfter (.create ibcCtx (some ibcCreator) [1] none .default)
      (.initial (some defaultParams) ()))

/-- The contract receives a packet and will acknowledge it later. -/
def waitingChain : ChainState Unit :=
  laterAfter (.top (.entry (.ibcPacketReceive ibcCtx ibcContract
    ⟨⟨[], 0⟩, newIBCPacket laterPacket⟩))) laterChain

/-- The export of a state, imported into an empty store. -/
def transferred (st : ChainState Unit) :
    Except (Failure GoError) Unit × World (Multistore Unit) Shared :=
  laterKeeper.transfer st.ms.wasm st.vm (plainWorld .empty (.infinite 0))

theorem transferred_ok {st : ChainState Unit} (h : (transferred st).1.toOption = some ()) :
    laterKeeper.transfer st.ms.wasm st.vm (plainWorld .empty (.infinite 0)) =
      (.ok (), (transferred st).2) :=
  GoM.ok_of_toOption h

theorem waitingChain_reached :
    Reached laterKeeper sendMessenger (fun _ => True) (.initial (some defaultParams) ())
      waitingChain := by
  refine ((Relation.ReflTransGen.single (.ok (u := ()) trivial (GoM.ok_of_toOption ?_))).tail
    (.ok (u := ()) trivial (GoM.ok_of_toOption ?_))).tail
    (.ok (u := ()) trivial (GoM.ok_of_toOption ?_))
  · decide +kernel
  · decide +kernel
  · decide +kernel

/-- **The packet is lost**: it waits in a state that a run leads to, the export of which is
accepted, and it is not there any more. -/
theorem pending_ack_lost :
    Reached laterKeeper sendMessenger (fun _ => True) (.initial (some defaultParams) ())
      waitingChain ∧
    waitingChain.ms.wasm.loadAsyncAckPacket laterPacket.destinationPort
      laterPacket.destinationChannel laterPacket.sequence = some laterPacket ∧
    (transferred waitingChain).1 = .ok () ∧
    (transferred waitingChain).2.ms.wasm.loadAsyncAckPacket laterPacket.destinationPort
      laterPacket.destinationChannel laterPacket.sequence = none := by
  refine ⟨waitingChain_reached, ?_⟩
  decide +kernel

/-- Before the packet is received, nothing is lost. -/
theorem pending_acks_survive_none :
    (transferred laterChain).1.toOption = some () ∧
      ∀ port channel sequence packet,
        laterChain.ms.wasm.loadAsyncAckPacket port channel sequence = some packet →
        (transferred laterChain).2.ms.wasm.loadAsyncAckPacket port channel sequence =
          some packet := by
  have haccepted : (transferred laterChain).1.toOption = some () := by decide +kernel
  have hnone : laterChain.ms.wasm.asyncAcks = ∅ :=
    Std.ExtTreeMap.isEmpty_iff.mp (by decide +kernel)
  refine ⟨haccepted,
    (pending_acks_survive_iff laterKeeper _ _ _ _ rfl (transferred_ok haccepted)).mpr
    fun port channel sequence => ?_⟩
  rw [WasmStore.loadAsyncAckPacket, hnone]
  rfl

end Wasmd
